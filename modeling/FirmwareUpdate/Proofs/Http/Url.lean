import FirmwareUpdate.Http.Client
import FirmwareUpdate.Proofs.Text.Parts
import FirmwareUpdate.Proofs.Text.Trim
import Mathlib.Data.List.DropRight
import Mathlib.Data.List.TakeWhile
import Mathlib.Tactic

/-! URLs that differ in a plain text at their end. Whatever comes before, and wherever in the URL
the text belongs, it is read as it stands, and nothing else depends on it. -/

namespace FirmwareUpdate.Http

namespace Url

open Text (parts_ne_nil parts_cons_of_ne parts_append mem_of_mem_parts trimEnd_keeps)

def plainChars : List Char := "abcdefghijklmnopqrstuvwxyz/".toList

def Plain (cs : List Char) : Prop :=
  ∀ c ∈ cs, c ∈ plainChars

-- Without these, all characters there are would be gone through.
local instance (priority := high) {p : Char → Prop} [DecidablePred p] (cs : List Char) :
    Decidable (∀ c ∈ cs, p c) :=
  List.decidableBAll p cs

local instance (priority := high) {p : Char → Prop} [DecidablePred p] (cs : List Char) :
    Decidable (∃ c ∈ cs, p c) :=
  List.decidableBEx p cs

instance (cs : List Char) : Decidable (Plain cs) :=
  List.decidableBAll _ cs

variable {r : List Char} {k : Kind}

lemma Plain.append {cs ds : List Char} (hc : Plain cs) (hd : Plain ds) : Plain (cs ++ ds) := by
  intro c hm
  rcases List.mem_append.mp hm with hm | hm
  · exact hc c hm
  · exact hd c hm

lemma Plain.slash (hr : Plain r) : Plain ('/' :: r) := by
  intro c hm
  rcases List.mem_cons.mp hm with rfl | hm
  · decide
  · exact hr c hm

lemma encode_plain {escaped : List Char} (h : ∀ c ∈ plainChars, c ∉ escaped) (hr : Plain r) :
    r.flatMap (encodeChar escaped) = r := by
  have hascii : ∀ c ∈ plainChars, ¬ (c.toNat < 0x20 ∨ 0x7E < c.toNat) := by decide
  have hchar : ∀ c ∈ plainChars, encodeChar escaped c = [c] := by
    intro c hc
    rw [encodeChar, if_neg]
    rintro (hn | hn | hn)
    · exact hascii c hc (.inl hn)
    · exact hascii c hc (.inr hn)
    · exact h c hc hn
  rw [List.flatMap_congr fun c hc => hchar c (hr c hc)]
  exact List.flatMap_singleton' r

lemma joined_plain (hr : Plain r) : joined (Text.parts '/' r) = '/' :: r := by
  induction r with
  | nil => rfl
  | cons c r ih =>
    have ih := ih fun d hd => hr d (List.mem_cons_of_mem c hd)
    by_cases h : c = '/'
    · subst h
      simp only [Text.parts, if_true, joined, List.flatMap_cons] at ih ⊢
      rw [ih]
      rfl
    · obtain ⟨p, ps, hp, hc⟩ := parts_cons_of_ne h r
      have hone : [c].flatMap (encodeChar pathEscapes) = [c] :=
        encode_plain (by decide) fun d hd => hr d (by simp_all)
      rw [hp] at ih
      rw [hc]
      simp only [joined, List.flatMap_cons, List.cons_append, List.flatMap_nil,
        List.append_nil, List.cons.injEq, true_and] at ih hone ⊢
      rw [hone, List.append_assoc, ih]
      rfl

lemma Plain.not_dots {q : List Char} (hq : Plain q) : isDot q = false ∧ isDoubleDot q = false := by
  have hchar : ∀ c ∈ plainChars, c.toLower = c := by decide
  have hlower : q.map Char.toLower = q :=
    (List.map_congr_left fun c hc => hchar c (hq c hc)).trans (List.map_id q)
  have hnone : ∀ ds : List (List Char), (∀ d ∈ ds, ∃ c ∈ d, c ∉ plainChars) → q ∉ ds := by
    intro ds hds hm
    obtain ⟨c, hc, hn⟩ := hds q hm
    exact hn (hq c hc)
  rw [isDot, isDoubleDot, hlower]
  exact ⟨decide_eq_false (hnone _ (by decide)), decide_eq_false (hnone _ (by decide))⟩

lemma resolveDots_plain {done qs : List (List Char)} (hk : k ≠ .file) (hne : qs ≠ [])
    (hq : ∀ q ∈ qs, Plain q) : resolveDots k done qs = done.reverse ++ qs := by
  induction qs generalizing done with
  | nil => exact absurd rfl hne
  | cons q qs ih =>
    have hf : forth k done q = q :: done := by
      rw [forth, if_neg fun h => hk h.1]
    obtain ⟨h1, h2⟩ := (hq q List.mem_cons_self).not_dots
    cases qs with
    | nil => simp [resolveDots, h1, h2, hf]
    | cons q' qs =>
      have hih : resolveDots k (q :: done) (q' :: qs) = (q :: done).reverse ++ q' :: qs :=
        ih (by simp) fun p hp => hq p (List.mem_cons_of_mem q hp)
      rw [resolveDots, h2, h1, hf]
      · simpa using hih
      · simp

lemma resolveDots_append (hk : k ≠ .file) (ps done : List (List Char)) :
    ∃ front, ∀ qs, qs ≠ [] → (∀ q ∈ qs, Plain q) →
      resolveDots k done (ps ++ qs) = front ++ qs := by
  induction ps generalizing done with
  | nil => exact ⟨done.reverse, fun qs hne hq => resolveDots_plain hk hne hq⟩
  | cons p ps ih =>
    have hcons : ∀ qs : List (List Char), qs ≠ [] → resolveDots k done (p :: (ps ++ qs)) =
        if isDoubleDot p then resolveDots k (back done) (ps ++ qs)
        else if isDot p then resolveDots k done (ps ++ qs)
        else resolveDots k (forth k done p) (ps ++ qs) := by
      intro qs hne
      rw [resolveDots]
      simp [hne]
    by_cases h2 : isDoubleDot p = true
    · obtain ⟨front, hf⟩ := ih (back done)
      refine ⟨front, fun qs hne hq => ?_⟩
      rw [List.cons_append, hcons qs hne, if_pos h2]
      exact hf qs hne hq
    · by_cases h1 : isDot p = true
      · obtain ⟨front, hf⟩ := ih done
        refine ⟨front, fun qs hne hq => ?_⟩
        rw [List.cons_append, hcons qs hne, if_neg h2, if_pos h1]
        exact hf qs hne hq
      · obtain ⟨front, hf⟩ := ih (forth k done p)
        refine ⟨front, fun qs hne hq => ?_⟩
        rw [List.cons_append, hcons qs hne, if_neg h2, if_neg h1]
        exact hf qs hne hq

lemma writePath_plain (hk : k ≠ .file) (T : List Char) :
    ∃ front, ∀ r, Plain r → writePath k (T ++ '/' :: r) = front ++ '/' :: r := by
  have hback : ∀ c ∈ plainChars, (c == '\\') = false := by decide
  have hslash : ∀ c ∈ plainChars, (if k.isSlash c then '/' else c) = c := by
    intro c hc
    by_cases h : c = '/'
    · simp [h, Kind.isSlash]
    · simp [h, Kind.isSlash, hback c hc]
  have hmap : ∀ r, Plain r → r.map (fun c => if k.isSlash c then '/' else c) = r := fun r hr =>
    (List.map_congr_left fun c hc => hslash c (hr c hc)).trans (List.map_id r)
  have hparts : ∀ r, Plain r → ∀ q ∈ Text.parts '/' r, Plain q :=
    fun r hr q hq c hc => hr c (mem_of_mem_parts hq hc)
  cases T with
  | nil =>
    refine ⟨[], fun r hr => ?_⟩
    have hd : resolveDots k [] (Text.parts '/' r) = [].reverse ++ Text.parts '/' r :=
      resolveDots_plain hk (parts_ne_nil '/' r) (hparts r hr)
    have hw : withoutSlash k ('/' :: r) = r := by simp [withoutSlash, Kind.isSlash]
    rw [List.nil_append, writePath, hw, pathParts, hmap r hr, hd, List.reverse_nil, List.nil_append,
      joined_plain hr]
  | cons t T =>
    have hw : ∃ U, ∀ r, withoutSlash k (t :: T ++ '/' :: r) = U ++ '/' :: r := by
      by_cases h : k.isSlash t = true
      · exact ⟨T, fun r => by simp [withoutSlash, h]⟩
      · exact ⟨t :: T, fun r => by simp [withoutSlash, h]⟩
    obtain ⟨U, hU⟩ := hw
    obtain ⟨ps, hps⟩ := resolveDots_append hk
      (Text.parts '/' (U.map fun c => if k.isSlash c then '/' else c)) []
    refine ⟨joined ps, fun r hr => ?_⟩
    rw [writePath, hU, pathParts, List.map_append, hmap _ hr.slash, parts_append,
      hps _ (parts_ne_nil '/' r) (hparts r hr), joined, List.flatMap_append, ← joined, ← joined,
      joined_plain hr]

lemma splitAt_slash {sep : Char → Bool} (h : sep '/' = true) (T r : List Char) :
    splitAt sep (T ++ '/' :: r) = ((splitAt sep T).1, (splitAt sep T).2 ++ '/' :: r) := by
  induction T with
  | nil => simp [splitAt, h]
  | cons t T ih =>
    cases ht : sep t with
    | true => simp [splitAt, ht]
    | false => simpa [splitAt, ht] using ih

lemma splitAt_plain {c : Char} (h : c ∉ plainChars) (T : List Char) :
    (∃ a b, ∀ r, Plain r → splitAt (· == c) (T ++ '/' :: r) = (a, c :: b ++ '/' :: r)) ∨
      ∀ r, Plain r → splitAt (· == c) (T ++ '/' :: r) = (T ++ '/' :: r, []) := by
  induction T with
  | nil =>
    right
    intro r hr
    have hno : ∀ d ∈ '/' :: r, (!(d == c)) = true := by
      intro d hd
      have hne : d ≠ c := by
        rintro rfl
        exact h (hr.slash d hd)
      simpa using hne
    rw [List.nil_append, splitAt, List.takeWhile_eq_self_iff.mpr hno,
      List.dropWhile_eq_nil_iff.mpr hno]
  | cons t T ih =>
    by_cases ht : t = c
    · left
      subst ht
      exact ⟨[], T, fun r _ => by simp [splitAt]⟩
    · rcases ih with ⟨a, b, hab⟩ | hno
      · left
        refine ⟨t :: a, b, fun r hr => ?_⟩
        simpa [splitAt, ht] using hab r hr
      · right
        intro r hr
        simpa [splitAt, ht] using hno r hr

lemma writeTail_plain (hk : k ≠ .file) (T : List Char) :
    ∃ front, ∀ r, Plain r → writeTail k (writePath k) (T ++ '/' :: r) = front ++ '/' :: r := by
  have hquery : ∀ c ∈ plainChars, c ∉ queryEscapes k := by
    intro c hc
    rw [queryEscapes, List.mem_append]
    rintro (hm | hm)
    · exact (by decide : ∀ c ∈ plainChars, c ∉ [' ', '"', '#', '<', '>']) c hc hm
    · split at hm
      · exact (by decide : ∀ c ∈ plainChars, c ∉ ['\'']) c hc hm
      · cases hm
  rcases splitAt_plain (c := '#') (by decide) T with ⟨a, b, hab⟩ | hno
  · have hfragment : ∀ r, Plain r → (b ++ '/' :: r).flatMap (encodeChar fragmentEscapes) =
        b.flatMap (encodeChar fragmentEscapes) ++ '/' :: r := by
      intro r hr
      rw [List.flatMap_append, encode_plain (by decide) hr.slash]
    cases hs : splitAt (· == '?') a with
    | mk p q =>
      cases q with
      | nil =>
        refine ⟨writePath k p ++ '#' :: b.flatMap (encodeChar fragmentEscapes), fun r hr => ?_⟩
        rw [writeTail, hab r hr]
        simp only [hs, List.cons_append, hfragment r hr, List.append_assoc, List.append_nil]
      | cons d q =>
        refine ⟨writePath k p ++ '?' :: q.flatMap (encodeChar (queryEscapes k)) ++
          '#' :: b.flatMap (encodeChar fragmentEscapes), fun r hr => ?_⟩
        rw [writeTail, hab r hr]
        simp only [hs, List.cons_append, hfragment r hr, List.append_assoc]
  · rcases splitAt_plain (c := '?') (by decide) T with ⟨a, b, hab⟩ | hno'
    · refine ⟨writePath k a ++ '?' :: b.flatMap (encodeChar (queryEscapes k)), fun r hr => ?_⟩
      rw [writeTail, hno r hr]
      simp only [hab r hr, List.cons_append, List.flatMap_append, encode_plain hquery hr.slash,
        List.append_assoc, List.append_nil]
    · obtain ⟨front, hf⟩ := writePath_plain hk T
      refine ⟨front, fun r hr => ?_⟩
      rw [writeTail, hno r hr]
      simp only [hno' r hr, hf r hr, List.append_nil]

lemma parseWeb_plain (scheme : List Char) (socket : Nat) (T : List Char) :
    ∃ x : Except UrlError (Authority × List Char), ∀ r, Plain r →
      parseWeb scheme socket (T ++ '/' :: r) =
        x.map fun a => ⟨scheme, some a.1, a.2 ++ '/' :: r⟩ := by
  have hslash : endsAuthority (.web socket) '/' = true := by simp [endsAuthority, Kind.isSlash]
  obtain ⟨front, hf⟩ := writeTail_plain (k := .web socket) (by simp)
    (splitAt (endsAuthority (.web socket)) T).2
  cases hu : splitUser (splitAt (endsAuthority (.web socket)) T).1 with
  | mk user place =>
    cases hh : parseHost (place.take (hostLength false place)) with
    | error e =>
      refine ⟨.error e, fun r _ => ?_⟩
      simp only [parseWeb, splitAt_slash hslash, hu, hh]
      rfl
    | ok host =>
      cases hn : parseSocket (some socket) (place.drop (hostLength false place)) with
      | error e =>
        refine ⟨.error e, fun r _ => ?_⟩
        simp only [parseWeb, splitAt_slash hslash, hu, hh, hn]
        rfl
      | ok n =>
        refine ⟨.ok (⟨user.elim .nobody parseUser, host, n.1⟩, front), fun r hr => ?_⟩
        simp only [parseWeb, splitAt_slash hslash, hf r hr, hu, hh, hn]
        rfl

lemma trimEnd_plain (hr : Plain r) : Text.trimEnd isEdge r = r := by
  have hedge : ∀ c ∈ plainChars, isEdge c = false := by decide
  apply Text.trimEnd_eq_self
  intro c hc
  exact hedge c (hr c (List.mem_of_getLast? hc))

def IsScheme (S : List Char) : Prop :=
  S = ['h', 't', 't', 'p'] ∨ S = ['h', 't', 't', 'p', 's']

lemma strip_plain {S : List Char} (hS : IsScheme S) (B : List Char) :
    ∃ R, ∀ r, Plain r → strip (S ++ ':' :: B ++ '/' :: r) = S ++ ':' :: R ++ '/' :: r := by
  let isKept (c : Char) : Bool := c != '\t' && c != '\n' && c != '\r'
  have hplain : ∀ c ∈ plainChars, isKept c = true := by decide
  have hkept : S.filter isKept = S := by
    rcases hS with rfl | rfl <;> decide
  have hedge : ∀ l, (S ++ l).dropWhile isEdge = S ++ l := by
    intro l
    rcases hS with rfl | rfl <;> exact List.dropWhile_cons_of_neg (by decide)
  refine ⟨B.filter isKept, fun r hr => ?_⟩
  have hr' : r.filter isKept = r := List.filter_eq_self.mpr fun c hc => hplain c (hr c hc)
  rw [strip, List.append_assoc, hedge, ← List.append_assoc, trimEnd_keeps (by decide),
    trimEnd_plain hr]
  change List.filter isKept _ = _
  rw [List.filter_append, List.filter_append, hkept, List.filter_cons_of_pos (by decide),
    List.filter_cons_of_pos (by decide), hr']

lemma parse_scheme {S : List Char} (hS : IsScheme S) :
    ∃ socket, ∀ s R, strip s.toList = S ++ ':' :: R →
      parse s = parseWeb S socket (R.dropWhile (Kind.web socket).isSlash) := by
  rcases hS with rfl | rfl
  · refine ⟨80, fun s R h => ?_⟩
    rw [parse, h]
    rfl
  · refine ⟨443, fun s R h => ?_⟩
    rw [parse, h]
    rfl

lemma parse_endpoints {S : List Char} (hS : IsScheme S) (B : List Char) :
    ∃ (x : Except UrlError (Authority × List Char)) (rest : Endpoint → List Char),
      (rest .info).length ≤ (rest .state).length ∧
      ∀ e s, s.toList = S ++ ':' :: B ++ '/' :: e.path.toList.dropWhile Client.isSlash →
        parse s = x.map fun a => ⟨S, some a.1, a.2 ++ '/' :: rest e⟩ := by
  have hpath : ∀ e : Endpoint, e.path.toList.dropWhile Client.isSlash =
      ['a', 'p', 'i'] ++ '/' :: e.path.toList.drop 5 := by
    intro e
    cases e <;> decide
  have hplain : ∀ e : Endpoint, Plain (e.path.toList.drop 5) := by
    intro e
    cases e <;> decide
  obtain ⟨R, hR⟩ := strip_plain hS B
  obtain ⟨socket, hsocket⟩ := parse_scheme hS
  have hapi : Plain ['a', 'p', 'i'] := by decide
  have hparse : ∀ (e : Endpoint) s,
      s.toList = S ++ ':' :: B ++ '/' :: e.path.toList.dropWhile Client.isSlash →
      parse s = parseWeb S socket
        ((R ++ '/' :: (['a', 'p', 'i'] ++ '/' :: e.path.toList.drop 5)).dropWhile
          (Kind.web socket).isSlash) := by
    intro e s hs
    apply hsocket
    rw [hs, hpath, hR _ (hapi.append (hplain e).slash), List.append_assoc, List.cons_append]
  cases hd : R.dropWhile (Kind.web socket).isSlash with
  | nil =>
    -- All up to the path are slashes, so its first part is read as the host.
    obtain ⟨x, hx⟩ := parseWeb_plain S socket ['a', 'p', 'i']
    refine ⟨x, fun e => e.path.toList.drop 5, by decide, fun e s hs => ?_⟩
    rw [hparse e s hs, List.dropWhile_append, hd]
    exact hx _ (hplain e)
  | cons c R' =>
    obtain ⟨x, hx⟩ := parseWeb_plain S socket (c :: R')
    refine ⟨x, fun e => ['a', 'p', 'i'] ++ '/' :: e.path.toList.drop 5, by decide, fun e s hs => ?_⟩
    rw [hparse e s hs, List.dropWhile_append, hd]
    exact hx _ (hapi.append (hplain e).slash)

lemma anonymous_authority (S : List Char) (a : Authority) :
    ∃ b, ∀ tail, (⟨S, some a, tail⟩ : Url).anonymous = ⟨S, some b, tail⟩ := by
  by_cases h : isKnown a.user = true
  · exact ⟨{ a with user := .nobody }, fun tail => by simp [anonymous, h]⟩
  · exact ⟨a, fun tail => by simp [anonymous, h]⟩

lemma isSendable_shorter {S : List Char} {a : Authority} {t u : List Char}
    (h : isSendable ⟨S, some a, t⟩ = true) (hl : u.length ≤ t.length) :
    isSendable ⟨S, some a, u⟩ = true := by
  simp only [isSendable, text, Option.all_some, Option.elim_some, Bool.and_eq_true,
    decide_eq_true_eq, String.length_ofList, List.length_append] at h ⊢
  exact ⟨h.1, by omega⟩

end Url

end FirmwareUpdate.Http
