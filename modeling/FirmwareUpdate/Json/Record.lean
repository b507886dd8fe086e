import FirmwareUpdate.Json.Skip

/-! Records: a fixed list of named fields, given as an object in any order or as an array in the
order of the fields. An object may hold members that the record does not know; they are passed
over. -/

namespace FirmwareUpdate.Json

inductive Kind
  | flag
  | text
  | size

inductive Value
  | flag (b : Bool)
  | text (t : Option String)
  | size (n : Option UInt64)

structure Field where
  name : String
  kind : Kind
  /-- An array may end before this field. -/
  defaulted : Bool

def Field.optional (f : Field) : Bool :=
  match f.kind with
  | .flag => f.defaulted
  | .text => true
  | .size => true

structure Record where
  name : String
  fields : List Field

abbrev Members := List (String × Value)

def Record.field? (s : Record) (name : String) : Option Field :=
  s.fields.find? (·.name == name)

def unexpected (expected : String) (cs : List Char) : Fault :=
  let named (word : List Char) (found : Found) (cs : List Char) : Fault :=
    match readIdentifier word cs with
    | .error f => f
    | .ok rest => behind rest (.wrongType found expected)
  let numeric : Except Fault (Numeral × List Char) → Fault
    | .error f => f
    | .ok (.natural n, rest) => behind rest (.wrongType (.integer n) expected)
    | .ok (.negative n, rest) => behind rest (.wrongType (.integer (-n)) expected)
    | .ok (.real minus b, rest) => behind rest (.wrongType (.float (floatText minus b)) expected)
  match cs with
  | [] => ahead [] .endOfValue
  | 'n' :: cs => named ['u', 'l', 'l'] .null cs
  | 't' :: cs => named ['r', 'u', 'e'] (.boolean true) cs
  | 'f' :: cs => named ['a', 'l', 's', 'e'] (.boolean false) cs
  | '-' :: cs => numeric (readNumber true cs)
  | '"' :: cs =>
      match readText cs with
      | .error f => f
      | .ok (t, rest) => behind rest (.wrongType (.text (String.ofList t)) expected)
  | '[' :: _ => behind cs (.wrongType .sequence expected)
  | '{' :: _ => behind cs (.wrongType .map expected)
  | c :: _ => if c.isDigit then numeric (readNumber false cs) else ahead cs .expectedValue

def readFlag (cs : List Char) : Except Fault (Value × List Char) :=
  match cs with
  | 't' :: cs => (readIdentifier ['r', 'u', 'e'] cs).map fun r => (.flag true, r)
  | 'f' :: cs => (readIdentifier ['a', 'l', 's', 'e'] cs).map fun r => (.flag false, r)
  | cs => .error (unexpected "a boolean" cs)

def readOptionalText (cs : List Char) : Except Fault (Value × List Char) :=
  match cs with
  | 'n' :: cs => (readIdentifier ['u', 'l', 'l'] cs).map fun r => (.text none, r)
  | '"' :: cs => (readText cs).map fun (t, r) => (.text (some (String.ofList t)), r)
  | cs => .error (unexpected "a string" cs)

def readOptionalSize (cs : List Char) : Except Fault (Value × List Char) :=
  match cs with
  | 'n' :: cs => (readIdentifier ['u', 'l', 'l'] cs).map fun r => (.size none, r)
  | '-' :: cs =>
      match readNumber true cs with
      | .ok (.negative n, rest) => .error (behind rest (.wrongValue (.integer (-n)) "u64"))
      | _ => .error (unexpected "u64" ('-' :: cs))
  | [] => .error (unexpected "u64" [])
  | c :: rest =>
      if c.isDigit then
        match readNumber false (c :: rest) with
        | .ok (.natural n, r) => .ok (.size (some (.ofNat n)), r)
        | _ => .error (unexpected "u64" (c :: rest))
      else .error (unexpected "u64" (c :: rest))

def Kind.read (k : Kind) (cs : List Char) : Except Fault (Value × List Char) :=
  match k with
  | .flag => readFlag (skipSpace cs)
  | .text => readOptionalText (skipSpace cs)
  | .size => readOptionalSize (skipSpace cs)

def afterObject (cs : List Char) : List Char :=
  match skipSpace cs with
  | '}' :: r => r
  | r => r

def readKey (first : Bool) (cs : List Char) : Except Fault (Option (List Char) × List Char) :=
  let key (r : List Char) : Except Fault (Option (List Char) × List Char) :=
    (readText r).map fun (t, r) => (some t, r)
  match skipSpace cs with
  | [] => .error (ahead [] .endOfObject)
  | '}' :: r => .ok (none, r)
  | c :: r =>
      if first then
        if c = '"' then key r else .error (ahead (c :: r) .keyNotText)
      else if c = ',' then
        match skipSpace r with
        | [] => .error (ahead [] .endOfValue)
        | '"' :: r => key r
        | '}' :: r => .error (ahead ('}' :: r) .trailingComma)
        | r => .error (ahead r .keyNotText)
      else .error (ahead (c :: r) .expectedMember)

theorem readKey_length {first : Bool} {cs rest : List Char} {k : Option (List Char)}
    (h : readKey first cs = .ok (k, rest)) : rest.length < cs.length := by
  have hl := skipSpace_length cs
  have key (r : List Char)
      (h : (readText r).map (fun (p : List Char × List Char) => (some p.1, p.2)) = .ok (k, rest)) :
      rest.length < r.length := by
    cases hr : readText r with
    | error => simp [hr, Except.map] at h
    | ok p =>
      have := readText_length hr
      simp only [hr, Except.map, Except.ok.injEq, Prod.mk.injEq] at h
      rw [← h.2]
      exact this
  unfold readKey at h
  dsimp only at h
  split at h
  · simp at h
  · rename_i hs
    simp only [Except.ok.injEq, Prod.mk.injEq] at h
    rw [hs, h.2, List.length_cons] at hl
    exact hl
  · rename_i c r _ hs
    rw [hs, List.length_cons] at hl
    split at h
    · split at h
      · have := key r h
        omega
      · simp at h
    · split at h
      · have hr := skipSpace_length r
        split at h
        · simp at h
        · rename_i hq
          have := key _ h
          rw [hq, List.length_cons] at hr
          omega
        · simp at h
        · simp at h
      · simp at h

theorem readFlag_length {cs rest : List Char} {v : Value} (h : readFlag cs = .ok (v, rest)) :
    rest.length ≤ cs.length := by
  unfold readFlag at h
  split at h
  · cases hr : readIdentifier ['r', 'u', 'e'] ‹_› with
    | error => simp [hr, Except.map] at h
    | ok r =>
      simp only [hr, Except.map, Except.ok.injEq, Prod.mk.injEq] at h
      rw [← h.2]
      exact Nat.le_succ_of_le (readIdentifier_length hr)
  · cases hr : readIdentifier ['a', 'l', 's', 'e'] ‹_› with
    | error => simp [hr, Except.map] at h
    | ok r =>
      simp only [hr, Except.map, Except.ok.injEq, Prod.mk.injEq] at h
      rw [← h.2]
      exact Nat.le_succ_of_le (readIdentifier_length hr)
  · simp at h

theorem readOptionalText_length {cs rest : List Char} {v : Value}
    (h : readOptionalText cs = .ok (v, rest)) : rest.length ≤ cs.length := by
  unfold readOptionalText at h
  split at h
  · cases hr : readIdentifier ['u', 'l', 'l'] ‹_› with
    | error => simp [hr, Except.map] at h
    | ok r =>
      simp only [hr, Except.map, Except.ok.injEq, Prod.mk.injEq] at h
      rw [← h.2]
      exact Nat.le_succ_of_le (readIdentifier_length hr)
  · cases hr : readText ‹_› with
    | error => simp [hr, Except.map] at h
    | ok p =>
      simp only [hr, Except.map, Except.ok.injEq, Prod.mk.injEq] at h
      rw [← h.2]
      exact Nat.le_succ_of_le (Nat.le_of_lt (readText_length hr))
  · simp at h

theorem readOptionalSize_length {cs rest : List Char} {v : Value}
    (h : readOptionalSize cs = .ok (v, rest)) : rest.length ≤ cs.length := by
  unfold readOptionalSize at h
  split at h
  · cases hr : readIdentifier ['u', 'l', 'l'] ‹_› with
    | error => simp [hr, Except.map] at h
    | ok r =>
      simp only [hr, Except.map, Except.ok.injEq, Prod.mk.injEq] at h
      rw [← h.2]
      exact Nat.le_succ_of_le (readIdentifier_length hr)
  · split at h <;> simp at h
  · simp at h
  · split at h
    · split at h
      · rename_i hr
        simp only [Except.ok.injEq, Prod.mk.injEq] at h
        rw [← h.2]
        exact Nat.le_of_lt (readNumber_length hr)
      · simp at h
    · simp at h

theorem Kind.read_length {k : Kind} {cs rest : List Char} {v : Value}
    (h : k.read cs = .ok (v, rest)) : rest.length ≤ cs.length := by
  have := skipSpace_length cs
  cases k with
  | flag => exact Nat.le_trans (readFlag_length h) this
  | text => exact Nat.le_trans (readOptionalText_length h) this
  | size => exact Nat.le_trans (readOptionalSize_length h) this

def Members.has (ms : Members) (name : String) : Bool :=
  ms.any (·.1 == name)

def readMembers (s : Record) (first : Bool) (seen : Members) (cs : List Char) :
    Except Fault (Members × List Char) :=
  match _hk : readKey first cs with
  | .error f => .error f
  | .ok (none, r) =>
      match s.fields.find? fun (f : Field) => !f.optional && !seen.has f.name with
      | some f => .error (behind r (.missing f.name))
      | none => .ok (seen, r)
  | .ok (some key, r) =>
      match s.field? (String.ofList key) with
      | none =>
          match _hc : readColon r with
          | .error f => .error f
          | .ok r =>
              match _hv : skipValue r with
              | .error f => .error f
              | .ok r => readMembers s false seen r
      | some f =>
          if seen.has f.name then .error (behind (afterObject r) (.duplicate f.name))
          else
            match _hc : readColon r with
            | .error f => .error f
            | .ok r =>
                match _hv : f.kind.read r with
                | .error f => .error f
                | .ok (v, r) => readMembers s false ((f.name, v) :: seen) r
termination_by cs.length
decreasing_by
  · have := readKey_length _hk
    have := readColon_length _hc
    have := skipValue_length _hv
    omega
  · have := readKey_length _hk
    have := readColon_length _hc
    have := Kind.read_length _hv
    omega

def closeList (cs : List Char) : Except Fault (List Char) :=
  match skipSpace cs with
  | [] => .error (ahead [] .endOfList)
  | ']' :: r => .ok r
  | ',' :: r =>
      match skipSpace r with
      | ']' :: r => .error (ahead (']' :: r) .trailingComma)
      | r => .error (ahead r .trailingCharacters)
  | r => .error (ahead r .trailingCharacters)

def readElement (first : Bool) (cs : List Char) : Except Fault (Bool × List Char) :=
  match skipSpace cs with
  | [] => .error (ahead [] .endOfList)
  | ']' :: r => .ok (false, r)
  | c :: r =>
      if first then .ok (true, c :: r)
      else if c = ',' then
        match skipSpace r with
        | [] => .error (ahead [] .endOfValue)
        | ']' :: r => .error (ahead (']' :: r) .trailingComma)
        | r => .ok (true, r)
      else .error (ahead (c :: r) .expectedElement)

def readElements (s : Record) : (position : Nat) → List Field → List Char →
    Except Fault (Members × List Char)
  | _, [], cs => (closeList cs).map fun r => ([], r)
  | i, f :: fs, cs =>
      match readElement (i == 0) cs with
      | .error e => .error e
      | .ok (false, r) =>
          match (f :: fs).findIdx? fun (f : Field) => !f.defaulted with
          | some k => .error (behind r (.tooShort (i + k) s.name s.fields.length))
          | none => .ok ([], r)
      | .ok (true, r) =>
          match f.kind.read r with
          | .error e => .error e
          | .ok (v, r) => (readElements s (i + 1) fs r).map fun (ms, r) => ((f.name, v) :: ms, r)

def Record.readFront (s : Record) (cs : List Char) : Except Fault (Members × List Char) :=
  match skipSpace cs with
  | [] => .error (ahead [] .endOfValue)
  | '[' :: r => readElements s 0 s.fields r
  | '{' :: r => readMembers s true [] r
  | r => .error (unexpected s!"struct {s.name}" r)

def Record.read (s : Record) (cs : List Char) : Except Fault Members :=
  match s.readFront cs with
  | .error f => .error f
  | .ok (ms, r) =>
      match skipSpace r with
      | [] => .ok ms
      | r => .error (ahead r .trailingCharacters)

def Members.flag? (ms : Members) (name : String) : Option Bool :=
  match ms.lookup name with
  | some (.flag b) => some b
  | _ => none

def Members.text? (ms : Members) (name : String) : Option String :=
  match ms.lookup name with
  | some (.text t) => t
  | _ => none

def Members.size? (ms : Members) (name : String) : Option UInt64 :=
  match ms.lookup name with
  | some (.size n) => n
  | _ => none

end FirmwareUpdate.Json
