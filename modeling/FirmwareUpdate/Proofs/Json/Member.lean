import FirmwareUpdate.Proofs.Json.Token

/-! Objects as lists of members. What is read of an object is what its members say, whatever
stands between the tokens. -/

namespace FirmwareUpdate.Json

structure Member where
  key : List Piece
  value : List Token
  isValue : IsValue value

namespace Member

def name? (m : Member) : Option String :=
  (decoded? m.key).map String.ofList

def tokens (m : Member) : List Token :=
  .text m.key :: .colon :: m.value

end Member

def objectTokens (ms : List Member) : List Token :=
  enclosed .object (ms.map Member.tokens)

def Kind.value? : Kind → List Token → Option Value
  | .flag, [.flag b] => some (.flag b)
  | .text, [.null] => some (.text none)
  | .text, [.text ps] => (decoded? ps).map fun t => .text (some (String.ofList t))
  | .size, [.null] => some (.size none)
  | .size, [.number f] =>
      (f.natural?.filter (· ≤ greatestWord)).map fun n => .size (some (.ofNat n))
  | _, _ => none

def gather (s : Record) (seen : Members) : List Member → Option Members
  | [] =>
      match s.fields.find? fun (f : Field) => !f.optional && !seen.has f.name with
      | some _ => none
      | none => some seen
  | m :: ms =>
      m.name?.bind fun name =>
        match s.field? name with
        | none => gather s seen ms
        | some f =>
            if seen.has f.name then none
            else (f.kind.value? m.value).bind fun v => gather s ((f.name, v) :: seen) ms

variable {ts : List Token} {cs q : List Char} {ps : List Piece} {f : Figure}

lemma number_ne {c : Char} (h : c = '-' ∨ c.isDigit = true) :
    c ≠ 'n' ∧ c ≠ 't' ∧ c ≠ 'f' ∧ c ≠ '"' := by
  refine ⟨?_, ?_, ?_, ?_⟩
  all_goals
    rintro rfl
    rcases h with h | h <;> cases h

lemma readFlag_number (f : Figure) (q : List Char) :
    (readFlag (f.spelling ++ q)).toOption = none := by
  obtain ⟨c, s, hc, hfirst⟩ := f.spelling_head
  obtain ⟨-, ht, hf, -⟩ := number_ne hfirst
  rw [hc, List.cons_append, readFlag]
  · rfl
  · exact fun d hd => ht (List.cons.inj hd).1
  · exact fun d hd => hf (List.cons.inj hd).1

lemma readOptionalText_number (f : Figure) (q : List Char) :
    (readOptionalText (f.spelling ++ q)).toOption = none := by
  obtain ⟨c, s, hc, hfirst⟩ := f.spelling_head
  obtain ⟨hn, -, -, hquote⟩ := number_ne hfirst
  rw [hc, List.cons_append, readOptionalText]
  · rfl
  · exact fun d hd => hn (List.cons.inj hd).1
  · exact fun d hd => hquote (List.cons.inj hd).1

lemma readOptionalSize_minus (cs : List Char) : (readOptionalSize ('-' :: cs)).toOption = none := by
  rw [readOptionalSize]
  split
  · rfl
  · rfl

lemma readOptionalSize_digit {c : Char} (hd : c.isDigit = true) :
    (∃ n r, readNumber false (c :: cs) = .ok (.natural n, r) ∧
      readOptionalSize (c :: cs) = .ok (.size (some (.ofNat n)), r)) ∨
    (∀ n r, readNumber false (c :: cs) ≠ .ok (.natural n, r)) ∧
      (readOptionalSize (c :: cs)).toOption = none := by
  unfold readOptionalSize
  split
  · rename_i heq
    rw [(List.cons.inj heq).1] at hd
    cases hd
  · rename_i heq
    rw [(List.cons.inj heq).1] at hd
    cases hd
  · rename_i heq
    cases heq
  · rename_i heq
    obtain ⟨rfl, rfl⟩ := List.cons.inj heq
    rw [if_pos hd]
    split
    · rename_i n r hnumber
      exact .inl ⟨n, r, hnumber, rfl⟩
    · rename_i hother
      exact .inr ⟨hother, rfl⟩

lemma readOptionalSize_number (f : Figure) (hq : Parted [] q) :
    (readOptionalSize (f.spelling ++ q)).toOption = (Kind.size.value? [.number f]).map (·, q) := by
  cases hminus : f.minus with
  | true =>
    rw [Figure.spelling, if_pos hminus, List.cons_append, readOptionalSize_minus]
    simp [Kind.value?, Figure.natural?, hminus]
  | false =>
    obtain ⟨c, s, hs, hd⟩ := f.unsigned_head
    have hiff := fun n r => f.readNumber_unsigned (n := n) (r := r) hminus hq
    rw [Figure.spelling, if_neg (by simp [hminus])]
    rw [hs, List.cons_append] at hiff ⊢
    rcases @readOptionalSize_digit (s ++ q) c hd with ⟨n, r, hnumber, hsize⟩ | ⟨hother, hsize⟩
    · obtain ⟨hn, hle, rfl⟩ := (hiff n r).mp hnumber
      simp [hsize, Kind.value?, hn, hle, Except.toOption]
    · have hnone : f.natural?.filter (· ≤ greatestWord) = none := by
        rw [Option.filter_eq_none_iff]
        intro n hn hle
        exact hother n q ((hiff n q).mpr ⟨hn, by simpa using hle, rfl⟩)
      rw [hsize, Kind.value?, hnone]
      rfl

lemma readOptionalText_text (ps : List Piece) (q : List Char) :
    (readOptionalText ('"' :: (spelled ps ++ q))).toOption =
      (Kind.text.value? [.text ps]).map (·, q) := by
  have htext := readText_spelled ps q
  rw [readOptionalText, toOption_map, htext, Kind.value?]
  cases decoded? ps <;> rfl

lemma enclosed_head (b : Bracket) (es : List (List Token)) :
    ∃ ts, enclosed b es = .opening b :: ts := by
  cases es with
  | nil => exact ⟨_, rfl⟩
  | cons e es => exact ⟨_, rfl⟩

lemma Kind.read_enclosed (k : Kind) {b : Bracket} {es : List (List Token)}
    (hs : Spaced (enclosed b es) cs) :
    (k.read (cs ++ q)).toOption = (k.value? (enclosed b es)).map (·, q) := by
  obtain ⟨ts, hts⟩ := enclosed_head b es
  rw [hts] at hs ⊢
  obtain ⟨rest, -, hskip⟩ := hs.trimmed
  cases k
  all_goals
    simp only [Kind.read, hskip]
    cases b <;> rfl

lemma Kind.read_spaced (k : Kind) (h : IsValue ts) (hs : Spaced ts cs) (hq : Parted [] q) :
    (k.read (cs ++ q)).toOption = (k.value? ts).map (·, q) := by
  cases h with
  | null =>
    obtain ⟨_, ⟨⟩, hskip⟩ := hs.trimmed
    cases k
    all_goals
      simp only [Kind.read, hskip]
      rfl
  | flag b =>
    obtain ⟨_, ⟨⟩, hskip⟩ := hs.trimmed
    cases k
    all_goals
      simp only [Kind.read, hskip]
      cases b <;> rfl
  | number f =>
    obtain ⟨_, ⟨⟩, hskip⟩ := hs.trimmed
    cases k
    all_goals simp only [Kind.read, hskip, Token.spelling, List.nil_append]
    case flag => exact readFlag_number f q
    case text => exact readOptionalText_number f q
    case size => exact readOptionalSize_number f hq
  | text ps =>
    obtain ⟨_, ⟨⟩, hskip⟩ := hs.trimmed
    cases k
    all_goals simp only [Kind.read, hskip]
    case flag => rfl
    case text => exact readOptionalText_text ps q
    case size => rfl
  | list => exact k.read_enclosed hs
  | object => exact k.read_enclosed hs

variable {s : Record} {first : Bool} {seen : Members} {ms : List Member} {m : Member}

def Keyed (first : Bool) (cs : List Char) (m : Member) (rest : List Char) : Prop :=
  (readKey first cs).toOption = (decoded? m.key).map fun t => (some t, rest)

lemma readKey_text (ps : List Piece) (q : List Char) :
    ((readText (spelled ps ++ q)).map fun (t, r) => (some t, r)).toOption =
      (decoded? ps).map fun t => (some t, q) := by
  rw [toOption_map, readText_spelled, Option.map_map]
  rfl

lemma readKey_first_spaced (h : Spaced (m.tokens ++ ts) cs) :
    ∃ rest, Spaced (.colon :: (m.value ++ ts)) rest ∧ ∀ q, Keyed true (cs ++ q) m (rest ++ q) := by
  obtain ⟨rest, hrest, hs⟩ := Spaced.trimmed h
  refine ⟨rest, hrest, ?_⟩
  intro q
  rw [Keyed, readKey, hs]
  exact readKey_text m.key (rest ++ q)

lemma readKey_next_spaced (h : Spaced (.comma :: (m.tokens ++ ts)) cs) :
    ∃ rest, Spaced (.colon :: (m.value ++ ts)) rest ∧
      ∀ q, Keyed false (cs ++ q) m (rest ++ q) := by
  obtain ⟨rest, hrest, hs⟩ := h.trimmed
  obtain ⟨rest', hrest', hs'⟩ := Spaced.trimmed hrest
  refine ⟨rest', hrest', ?_⟩
  intro q
  have hkey := readKey_text m.key (rest' ++ q)
  rw [Keyed, readKey, hs]
  simpa [Token.spelling, hs'] using hkey

lemma readKey_closing (h : Spaced [.closing .object] cs) (first : Bool) (q : List Char) :
    readKey first (cs ++ q) = .ok (none, q) := by
  obtain ⟨_, ⟨⟩, hs⟩ := h.trimmed
  rw [readKey, hs]
  rfl

lemma readMembers_closing (h : Spaced [.closing .object] cs) (q : List Char) :
    (readMembers s first seen (cs ++ q)).toOption = (gather s seen []).map (·, q) := by
  rw [readMembers_eq, readKey_closing h first q]
  simp only [Except.bind, gather]
  cases s.fields.find? fun (f : Field) => !f.optional && !seen.has f.name with
  | none => rfl
  | some f => rfl

lemma readMembers_member {rest : List Char} (hk : Keyed first cs m (rest ++ q))
    (hrest : Spaced (.colon :: (m.value ++ ts)) rest)
    (hparted : ∀ back, Spaced ts back → Parted [] (back ++ q))
    (ih : ∀ seen back, Spaced ts back →
      (readMembers s false seen (back ++ q)).toOption = (gather s seen ms).map (·, q)) :
    (readMembers s first seen cs).toOption = (gather s seen (m :: ms)).map (·, q) := by
  obtain ⟨value, hvalue, hcolon⟩ := readColon_spaced hrest
  obtain ⟨front, back, rfl, hfront, hback⟩ := spaced_append.mp hvalue
  have hq := hparted back hback
  have hskip := skipValue_spaced m.isValue hfront hq
  have hread := fun k => Kind.read_spaced k m.isValue hfront hq
  rw [Keyed] at hk
  rw [readMembers_eq, toOption_bind, hk, gather, Member.name?]
  cases decoded? m.key with
  | none => rfl
  | some t =>
    dsimp only [Option.map_some, Option.bind_some]
    cases s.field? (String.ofList t) with
    | none =>
      dsimp only
      rw [hcolon, List.append_assoc, Except.bind, hskip]
      exact ih seen back hback
    | some f =>
      dsimp only
      split_ifs with hseen
      · rfl
      · rw [hcolon, List.append_assoc, Except.bind, toOption_bind, hread]
        cases f.kind.value? m.value with
        | none => rfl
        | some v => exact ih _ back hback

lemma readMembers_followed (h : Spaced (followed .object (ms.map Member.tokens)) cs)
    (q : List Char) :
    (readMembers s false seen (cs ++ q)).toOption = (gather s seen ms).map (·, q) := by
  induction ms generalizing seen cs with
  | nil => exact readMembers_closing h q
  | cons m ms ih =>
    rw [List.map_cons, followed_cons] at h
    obtain ⟨rest, hrest, hk⟩ := readKey_next_spaced h
    apply readMembers_member (hk q) hrest
    · intro back hback
      exact followed_parted hback q
    · intro seen back hback
      exact ih hback

lemma readFront_object (h : Spaced (objectTokens ms) cs) (q : List Char) :
    (s.readFront (cs ++ q)).toOption = (gather s [] ms).map (·, q) := by
  cases ms with
  | nil =>
    obtain ⟨rest, hrest, hs⟩ := Spaced.trimmed h
    rw [Record.readFront, hs]
    exact readMembers_closing hrest q
  | cons m ms =>
    obtain ⟨rest, hrest, hs⟩ := Spaced.trimmed h
    obtain ⟨rest', hrest', hk⟩ := readKey_first_spaced hrest
    rw [Record.readFront, hs]
    apply readMembers_member (hk q) hrest'
    · intro back hback
      exact followed_parted hback q
    · intro seen back hback
      exact readMembers_followed hback q

def Document (ts : List Token) (cs : List Char) : Prop :=
  ∃ front back, cs = front ++ back ∧ Spaced ts front ∧ ∀ c ∈ back, isSpace c = true

theorem Record.read_object (s : Record) (h : Document (objectTokens ms) cs) :
    (s.read cs).toOption = gather s [] ms := by
  obtain ⟨front, back, rfl, hfront, hback⟩ := h
  have hread := readFront_object (s := s) hfront back
  rw [Record.read]
  cases hs : s.readFront (front ++ back) with
  | error f =>
    rw [hs] at hread
    cases hg : gather s [] ms with
    | none => rfl
    | some es =>
      rw [hg] at hread
      cases hread
  | ok p =>
    rw [hs] at hread
    cases hg : gather s [] ms with
    | none =>
      rw [hg] at hread
      cases hread
    | some es =>
      rw [hg] at hread
      cases hread
      dsimp only
      rw [skipSpace_eq_nil.mpr hback]
      rfl

end FirmwareUpdate.Json
