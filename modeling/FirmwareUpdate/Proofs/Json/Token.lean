import FirmwareUpdate.Proofs.Json.Figure
import FirmwareUpdate.Proofs.Json.Piece

/-! Documents as tokens, with white space before any of them, and the values among them: a value
that is not needed is passed over to its last token, whatever it holds and however deep. -/

namespace FirmwareUpdate.Json

inductive Token
  | opening (b : Bracket)
  | closing (b : Bracket)
  | comma
  | colon
  | null
  | flag (b : Bool)
  | number (f : Figure)
  | text (ps : List Piece)

namespace Token

def spelling : Token → List Char
  | opening .list => ['[']
  | opening .object => ['{']
  | closing b => [b.close]
  | comma => [',']
  | colon => [':']
  | null => writeNull
  | flag b => writeFlag b
  | number f => f.spelling
  | text ps => '"' :: spelled ps

def parts : Token → Bool
  | closing _ | comma | colon => true
  | _ => false

end Token

inductive Spaced : List Token → List Char → Prop
  | nil : Spaced [] []
  | cons {t : Token} {ts : List Token} {w cs : List Char} (hw : ∀ c ∈ w, isSpace c = true)
      (h : Spaced ts cs) : Spaced (t :: ts) (w ++ (t.spelling ++ cs))

def followed (b : Bracket) (es : List (List Token)) : List Token :=
  es.flatMap (.comma :: ·) ++ [.closing b]

def enclosed (b : Bracket) : List (List Token) → List Token
  | [] => [.opening b, .closing b]
  | e :: es => .opening b :: (e ++ followed b es)

inductive IsValue : List Token → Prop
  | null : IsValue [.null]
  | flag (b : Bool) : IsValue [.flag b]
  | number (f : Figure) : IsValue [.number f]
  | text (ps : List Piece) : IsValue [.text ps]
  | list {es : List (List Token)} (h : ∀ e ∈ es, IsValue e) : IsValue (enclosed .list es)
  | object {ms : List (List Piece × List Token)} (h : ∀ m ∈ ms, IsValue m.2) :
      IsValue (enclosed .object (ms.map fun m => .text m.1 :: .colon :: m.2))

variable {b : Bracket} {t : Token} {ts us e : List Token} {es : List (List Token)}
  {cs q r : List Char} {nest : List Bracket}

lemma spaced_append :
    Spaced (ts ++ us) cs ↔ ∃ front back, cs = front ++ back ∧ Spaced ts front ∧ Spaced us back := by
  induction ts generalizing cs with
  | nil =>
    constructor
    · intro h
      exact ⟨[], cs, rfl, .nil, h⟩
    · rintro ⟨front, back, rfl, ⟨⟩, h⟩
      exact h
  | cons t ts ih =>
    constructor
    · intro h
      cases h with
      | @cons _ _ w cs hw h =>
        obtain ⟨front, back, rfl, hf, hb⟩ := ih.mp h
        exact ⟨w ++ (t.spelling ++ front), back, by simp, .cons hw hf, hb⟩
    · rintro ⟨front, back, rfl, hf, hb⟩
      cases hf with
      | cons hw hf =>
        rw [List.append_assoc, List.append_assoc]
        exact .cons hw (ih.mpr ⟨_, _, rfl, hf, hb⟩)

lemma Figure.spelling_head (f : Figure) :
    ∃ c s, f.spelling = c :: s ∧ (c = '-' ∨ c.isDigit = true) := by
  unfold spelling
  split
  · exact ⟨_, _, rfl, .inl rfl⟩
  · exact ⟨_, _, rfl, .inr f.whole.first_isDigit⟩

lemma Token.spelling_visible (t : Token) : ∃ c s, t.spelling = c :: s ∧ isSpace c = false := by
  cases t with
  | opening b => cases b <;> exact ⟨_, _, rfl, rfl⟩
  | closing b => cases b <;> exact ⟨_, _, rfl, rfl⟩
  | flag b => cases b <;> exact ⟨_, _, rfl, rfl⟩
  | number f =>
    obtain ⟨c, s, hs, hc⟩ := f.spelling_head
    refine ⟨c, s, hs, ?_⟩
    rcases hc with rfl | hd
    · rfl
    · exact isSpace_of_isDigit hd
  | _ => exact ⟨_, _, rfl, rfl⟩

lemma Token.parts_head (h : t.parts = true) : ∀ c ∈ t.spelling.head?, prolongs c = false := by
  cases t with
  | closing b =>
    rintro c ⟨⟩
    cases b <;> rfl
  | comma | colon =>
    rintro c ⟨⟩
    rfl
  | _ => cases h

lemma Token.starts_head (h : t.parts = false) (b : Bracket) :
    ∀ c ∈ t.spelling.head?, c ≠ b.close := by
  cases t with
  | opening b' =>
    cases b' <;>
    · rintro c ⟨⟩
      cases b <;> decide
  | flag b' =>
    cases b' <;>
    · rintro c ⟨⟩
      cases b <;> decide
  | number f =>
    obtain ⟨c, s, hs, hc⟩ := f.spelling_head
    rw [Token.spelling, hs]
    rintro d ⟨⟩ rfl
    rcases hc with h | h <;> cases b <;> cases h
  | null | text ps =>
    rintro c ⟨⟩
    cases b <;> decide
  | _ => cases h

lemma skipSpace_spaced {w : List Char} (hw : ∀ c ∈ w, isSpace c = true) (t : Token)
    (q : List Char) : skipSpace (w ++ (t.spelling ++ q)) = t.spelling ++ q := by
  obtain ⟨c, s, hs, hc⟩ := t.spelling_visible
  rw [skipSpace, List.dropWhile_append_of_pos hw, hs, List.cons_append,
    List.dropWhile_cons_of_neg (by simp [hc])]

lemma Spaced.trimmed (h : Spaced (t :: ts) cs) :
    ∃ rest, Spaced ts rest ∧ ∀ q, skipSpace (cs ++ q) = t.spelling ++ (rest ++ q) := by
  cases h with
  | @cons _ _ w rest hw h =>
    refine ⟨rest, h, ?_⟩
    intro q
    rw [List.append_assoc, List.append_assoc]
    exact skipSpace_spaced hw t _

lemma isSpace_not_prolongs {c : Char} (h : isSpace c = true) : prolongs c = false := by
  simp only [isSpace, Bool.or_eq_true, beq_iff_eq] at h
  rcases h with ((rfl | rfl) | rfl) | rfl
  all_goals rfl

lemma Spaced.parted (h : Spaced (t :: ts) cs) (ht : t.parts = true) (q : List Char) :
    Parted [] (cs ++ q) := by
  cases h with
  | @cons _ _ w rest hw h =>
    intro _ c hc
    cases w with
    | nil =>
      obtain ⟨d, s, hs, -⟩ := t.spelling_visible
      apply t.parts_head ht
      rw [hs] at hc ⊢
      exact hc
    | cons d w =>
      obtain rfl : d = c := Option.some.inj hc
      exact isSpace_not_prolongs (hw d List.mem_cons_self)

lemma IsValue.head (h : IsValue ts) : ∃ t ts', ts = t :: ts' ∧ t.parts = false := by
  cases h with
  | @list es => cases es <;> exact ⟨_, _, rfl, rfl⟩
  | @object ms => cases ms <;> exact ⟨_, _, rfl, rfl⟩
  | _ => exact ⟨_, _, rfl, rfl⟩

lemma skipScalar_number (f : Figure) (hq : Parted [] q) :
    skipScalar (f.spelling ++ q) = .ok q := by
  have hnumber := f.skipNumber_unsigned hq
  unfold Figure.spelling
  split
  · exact hnumber
  · obtain ⟨c, s, hs, hd⟩ := f.unsigned_head
    rw [hs] at hnumber ⊢
    rw [List.cons_append, skipScalar, if_pos hd]
    · exact hnumber
    all_goals
      rintro rfl
      cases hd

lemma opening?_of_number {c : Char} (h : c = '-' ∨ c.isDigit = true) :
    Bracket.opening? c = none := by
  unfold Bracket.opening?
  split
  · rcases h with h | h <;> cases h
  · rcases h with h | h <;> cases h
  · rfl

lemma skips_scalar (h : Spaced [t] cs) (hv : skipScalar (t.spelling ++ q) = .ok q)
    (hb : ∀ c ∈ t.spelling.head?, Bracket.opening? c = none) (hq : Skips false nest q r) :
    Skips true nest (cs ++ q) r := by
  obtain ⟨rest, hrest, hs⟩ := h.trimmed
  obtain ⟨c, s, hc, -⟩ := t.spelling_visible
  cases hrest
  have hskip : skipSpace (cs ++ q) = c :: (s ++ q) := by
    rw [hs, hc]
    rfl
  rw [hc] at hv hb
  exact .scalar hskip (hb c rfl) hv hq

def Entered (b : Bracket) (e : List Token) : Prop :=
  ∀ ⦃cs q r : List Char⦄ ⦃nest : List Bracket⦄, Spaced e cs → Parted [] q →
    Skips false (b :: nest) q r → ∃ s, b.enter (cs ++ q) = .ok s ∧ Skips true (b :: nest) s r

lemma readColon_spaced (h : Spaced (.colon :: ts) cs) :
    ∃ rest, Spaced ts rest ∧ ∀ q, readColon (cs ++ q) = .ok (rest ++ q) := by
  obtain ⟨rest, hrest, hs⟩ := h.trimmed
  refine ⟨rest, hrest, ?_⟩
  intro q
  rw [readColon, hs]
  rfl

lemma skipKey_spaced {ps : List Piece} (h : Spaced (.text ps :: .colon :: ts) cs) :
    ∃ rest, Spaced ts rest ∧ ∀ q, skipKey (cs ++ q) = .ok (rest ++ q) := by
  obtain ⟨rest, hrest, hs⟩ := h.trimmed
  obtain ⟨rest', hrest', hcolon⟩ := readColon_spaced hrest
  refine ⟨rest', hrest', ?_⟩
  intro q
  have htext := skipText_spelled ps (rest ++ q)
  rw [skipKey, hs, Token.spelling, List.cons_append]
  simp only [htext, hcolon]

def Passed (ts : List Token) : Prop :=
  ∀ ⦃cs q r : List Char⦄ ⦃nest : List Bracket⦄, Spaced ts cs → Parted [] q →
    Skips false nest q r → Skips true nest (cs ++ q) r

lemma Passed.list (h : Passed ts) : Entered .list ts := by
  intro cs q r nest hs hq hr
  exact ⟨_, rfl, h hs hq hr⟩

lemma Passed.object (h : Passed ts) (ps : List Piece) :
    Entered .object (.text ps :: .colon :: ts) := by
  intro cs q r nest hs hq hr
  obtain ⟨rest, hrest, hkey⟩ := skipKey_spaced hs
  exact ⟨_, hkey q, h hrest hq hr⟩

lemma followed_cons (b : Bracket) (e : List Token) (es : List (List Token)) :
    followed b (e :: es) = .comma :: (e ++ followed b es) := by
  simp [followed]

lemma followed_parted (h : Spaced (followed b es) cs) (q : List Char) : Parted [] (cs ++ q) := by
  cases es with
  | nil => exact Spaced.parted h rfl q
  | cons e es =>
    rw [followed_cons] at h
    exact h.parted rfl q

lemma followed_skips (he : ∀ e ∈ es, Entered b e) (h : Spaced (followed b es) cs)
    (hq : Skips false nest q r) : Skips false (b :: nest) (cs ++ q) r := by
  induction es generalizing cs with
  | nil =>
    obtain ⟨rest, hrest, hs⟩ := Spaced.trimmed h
    cases hrest
    exact .close (hs q) hq
  | cons e es ih =>
    rw [followed_cons] at h
    obtain ⟨rest, hrest, hs⟩ := h.trimmed
    obtain ⟨front, back, rfl, hfront, hback⟩ := spaced_append.mp hrest
    have hback' := ih (fun e' hm => he e' (List.mem_cons_of_mem e hm)) hback
    obtain ⟨s, henter, hskips⟩ :=
      he e List.mem_cons_self hfront (followed_parted hback q) hback'
    refine .next (hs q) ?_ hskips
    rw [List.append_assoc]
    exact henter

lemma opening_spelling (b : Bracket) :
    ∃ c, (Token.opening b).spelling = [c] ∧ Bracket.opening? c = some b := by
  cases b
  · exact ⟨_, rfl, rfl⟩
  · exact ⟨_, rfl, rfl⟩

lemma opened_closing (h : Spaced [.closing b] cs) (q : List Char) :
    b.opened (cs ++ q) = .ok (true, q) := by
  obtain ⟨rest, hrest, hs⟩ := h.trimmed
  cases hrest
  rw [Bracket.opened, hs]
  exact if_pos rfl

lemma opened_starting (h : Spaced (t :: ts) cs) (ht : t.parts = false) :
    ∃ rest, Spaced (t :: ts) rest ∧ ∀ q, b.opened (cs ++ q) = .ok (false, rest ++ q) := by
  obtain ⟨rest, hrest, hs⟩ := h.trimmed
  obtain ⟨c, s, hc, -⟩ := t.spelling_visible
  have hclose := t.starts_head ht b
  rw [hc] at hclose
  refine ⟨t.spelling ++ rest, .cons (w := []) (by simp) hrest, ?_⟩
  intro q
  rw [Bracket.opened, hs, hc, List.append_assoc]
  exact if_neg (hclose c rfl)

lemma enclosed_skips (he : ∀ e ∈ es, Entered b e)
    (hstart : ∀ e ∈ es, ∃ t ts, e = t :: ts ∧ t.parts = false)
    (h : Spaced (enclosed b es) cs) (hq : Skips false nest q r) : Skips true nest (cs ++ q) r := by
  obtain ⟨c, hc, hopen⟩ := opening_spelling b
  cases es with
  | nil =>
    obtain ⟨rest, hrest, hs⟩ := Spaced.trimmed h
    rw [hc] at hs
    exact .empty (hs q) hopen (opened_closing hrest q) hq
  | cons e es =>
    obtain ⟨rest, hrest, hs⟩ := Spaced.trimmed h
    obtain ⟨t, ts, rfl, ht⟩ := hstart e List.mem_cons_self
    obtain ⟨rest, hrest, hopened⟩ := opened_starting hrest ht
    obtain ⟨front, back, rfl, hfront, hback⟩ :=
      spaced_append.mp (show Spaced ((t :: ts) ++ followed b es) rest from hrest)
    have hafter := followed_skips (fun e' hm => he e' (List.mem_cons_of_mem _ hm)) hback hq
    obtain ⟨s, henter, hskips⟩ :=
      he (t :: ts) List.mem_cons_self hfront (followed_parted hback q) hafter
    rw [hc] at hs
    rw [← List.append_assoc] at henter
    exact .nested (hs q) hopen (hopened q) henter hskips

theorem IsValue.passed (h : IsValue ts) : Passed ts := by
  induction h with
  | null =>
    intro cs q r nest hs hq hr
    exact skips_scalar hs rfl (fun c hc => by cases hc; rfl) hr
  | flag b =>
    intro cs q r nest hs hq hr
    cases b with
    | true => exact skips_scalar hs rfl (fun c hc => by cases hc; rfl) hr
    | false => exact skips_scalar hs rfl (fun c hc => by cases hc; rfl) hr
  | number f =>
    intro cs q r nest hs hq hr
    obtain ⟨c, s, hc, hfirst⟩ := f.spelling_head
    refine skips_scalar hs (skipScalar_number f hq) ?_ hr
    intro d hd
    rw [Token.spelling, hc] at hd
    obtain rfl : c = d := Option.some.inj hd
    exact opening?_of_number hfirst
  | text ps =>
    intro cs q r nest hs hq hr
    exact skips_scalar hs (skipText_spelled ps q) (fun c hc => by cases hc; rfl) hr
  | list h ih =>
    intro cs q r nest hs hq hr
    exact enclosed_skips (fun e he => (ih e he).list) (fun e he => (h e he).head) hs hr
  | object h ih =>
    intro cs q r nest hs hq hr
    refine enclosed_skips ?_ ?_ hs hr
    · intro e he
      obtain ⟨m, hm, rfl⟩ := List.mem_map.mp he
      exact (ih m hm).object m.1
    · intro e he
      obtain ⟨m, hm, rfl⟩ := List.mem_map.mp he
      exact ⟨_, _, rfl, rfl⟩

theorem skipValue_spaced (h : IsValue ts) (hs : Spaced ts cs) (hq : Parted [] q) :
    skipValue (cs ++ q) = .ok q :=
  skips_iff.mpr (h.passed hs hq .done)

end FirmwareUpdate.Json
