import FirmwareUpdate.Json.Written
import FirmwareUpdate.Proofs.Json.Record
import FirmwareUpdate.Proofs.Text.Numeral

/-! What has been written is read back: texts character by character, numbers digit by digit, and
records member by member. -/

namespace FirmwareUpdate.Json

variable {c : Char} {cs ds q : List Char} {n : ℕ}

lemma hexDigit_digitChar : ∀ n < 16, hexDigit? (Nat.digitChar n) = some n := by
  decide

lemma escape_control (h : c.toNat < 0x20) (cs : List Char) :
    escape ('u' :: '0' :: '0' :: Nat.digitChar (c.toNat / 16) ::
      Nat.digitChar (c.toNat % 16) :: cs) = .ok (c, cs) := by
  have hzero : hexDigit? '0' = some 0 := rfl
  have hhigh := hexDigit_digitChar (c.toNat / 16) (by omega)
  have hlow := hexDigit_digitChar (c.toNat % 16) (by omega)
  have hquad : quad ('0' :: '0' :: Nat.digitChar (c.toNat / 16) ::
      Nat.digitChar (c.toNat % 16) :: cs) = .ok (c.toNat, cs) := by
    simp only [quad, hzero, hhigh, hlow, Except.ok.injEq, Prod.mk.injEq, and_true]
    omega
  rw [escape, hquad]
  dsimp only
  rw [if_neg (by omega), if_neg (by omega), Char.ofNat_toNat]

lemma readText_escaped (c : Char) (cs : List Char) :
    readText (escaped c ++ cs) = (readText cs).map fun (t, r) => (c :: t, r) := by
  unfold escaped
  split
  case h_8 hquote hback _ _ _ _ _ =>
    split_ifs with hc
    · exact readText_escape (escape_control hc cs)
    · exact readText_plain hquote hback hc
  all_goals exact readText_escape rfl

lemma readText_written (t cs : List Char) :
    readText (t.flatMap escaped ++ '"' :: cs) = .ok (t, cs) := by
  induction t with
  | nil => exact readText_quote cs
  | cons c t ih =>
    rw [List.flatMap_cons, List.append_assoc, readText_escaped, ih]
    rfl

lemma exists_digits (n : ℕ) : ∃ c ds, Nat.toDigits 10 n = c :: ds ∧
    (∀ d ∈ c :: ds, d.isDigit = true) ∧ (0 < n → c ≠ '0') := by
  have hd : ∀ d ∈ Nat.toDigits 10 n, d.isDigit = true := fun _ => Text.isDigit_of_mem_digits
  have hhead := Text.digits_head_ne_zero (n := n)
  cases hs : Nat.toDigits 10 n with
  | nil => exact absurd hs Nat.toDigits_ne_nil
  | cons c ds =>
    rw [hs] at hd hhead
    exact ⟨c, ds, rfl, hd, fun hpos => by simpa using hhead hpos⟩

lemma le_ofDigitChars (ds : List Char) (n : ℕ) : n ≤ Nat.ofDigitChars 10 ds n := by
  rw [Nat.ofDigitChars_eq_ofDigitChars_zero]
  exact Nat.le_add_right_of_le (Nat.le_mul_of_pos_left n (Nat.pow_pos (by decide)))

lemma wholeDigits_ofDigitChars (hd : ∀ c ∈ ds, c.isDigit = true) (hq : Undigited q)
    (h : Nat.ofDigitChars 10 ds n ≤ greatestWord) :
    wholeDigits n (ds ++ q) = (Nat.ofDigitChars 10 ds n, 0, q) := by
  induction ds generalizing n with
  | nil =>
    cases q with
    | nil => rfl
    | cons c q => simp [wholeDigits, hq c rfl]
  | cons c ds ih =>
    have hc : n * 10 + digitValue c = 10 * n + (c.toNat - '0'.toNat) := by
      rw [Nat.mul_comm]
      rfl
    rw [Nat.ofDigitChars_cons, ← hc] at h ⊢
    have hle := (le_ofDigitChars ds (n * 10 + digitValue c)).trans h
    rw [List.cons_append, wholeDigits, if_pos (hd c List.mem_cons_self), if_pos hle]
    exact ih (fun d hm => hd d (List.mem_cons_of_mem c hm)) h

lemma readNumber_digits (h : n ≤ greatestWord) :
    readNumber false (Nat.toDigits 10 n) = .ok (.natural n, []) := by
  rcases Nat.eq_zero_or_pos n with rfl | hpos
  · rfl
  · obtain ⟨c, ds, hs, hd, hzero⟩ := exists_digits n
    have hvalue := Nat.ofDigitChars_ten_toDigits (n := n)
    rw [hs, Nat.ofDigitChars_cons, Nat.mul_zero, Nat.zero_add] at hvalue
    have hend : Undigited [] := fun c hc => nomatch hc
    have hwhole : wholeDigits (digitValue c) ds = (n, 0, []) := by
      rw [← List.append_nil ds, wholeDigits_ofDigitChars _ hend]
      · exact congrArg (·, 0, []) hvalue
      · exact hvalue.le.trans h
      · exact fun d hm => hd d (List.mem_cons_of_mem c hm)
    rw [hs, readNumber, if_pos (hd c List.mem_cons_self), hwhole]
    · rfl
    · exact hzero hpos

lemma flag_read (b : Bool) : Kind.flag.read (writeFlag b) = .ok (.flag b, []) := by
  cases b with
  | true => rfl
  | false => rfl

lemma text_read (t : Option String) :
    Kind.text.read (writeOptionalText t) = .ok (.text t, []) := by
  cases t with
  | none => rfl
  | some s =>
    have hs := readText_written s.toList []
    change readOptionalText ('"' :: (s.toList.flatMap escaped ++ ['"'])) = _
    simp only [readOptionalText, hs, Except.map, String.ofList_toList]

lemma isSpace_of_isDigit (h : c.isDigit = true) : isSpace c = false := by
  cases hs : isSpace c with
  | false => rfl
  | true =>
    simp only [isSpace, Bool.or_eq_true, beq_iff_eq] at hs
    obtain ((rfl | rfl) | rfl) | rfl := hs
    all_goals cases h

lemma size_read (n : Option UInt64) :
    Kind.size.read (writeOptionalSize n) = .ok (.size n, []) := by
  cases n with
  | none => rfl
  | some n =>
    have hn : n.toNat ≤ greatestWord := Nat.le_of_lt_succ n.toNat_lt
    have hnumber := readNumber_digits hn
    obtain ⟨c, ds, hs, hd, _⟩ := exists_digits n.toNat
    have hc := hd c List.mem_cons_self
    rw [hs] at hnumber
    rw [writeOptionalSize, hs, Kind.read, skipSpace,
      List.dropWhile_cons_of_neg (by simp [isSpace_of_isDigit hc]), readOptionalSize, if_pos hc,
      hnumber]
    · simp only [UInt64.ofNat_toNat]
    all_goals
      rintro rfl
      cases hc

structure Written where
  field : Field
  value : Value
  text : List Char
  reads : field.kind.read text = .ok (value, [])

namespace Written

def member (w : Written) : List Char := writeMember w.field.name w.text

def entry (w : Written) : String × Value := (w.field.name, w.value)

def following (ws : List Written) : List Char :=
  ws.flatMap (fun w => ',' :: w.member) ++ ['}']

lemma member_append (w : Written) (q : List Char) :
    w.member ++ q = writeText w.field.name ++ ':' :: (w.text ++ q) := by
  simp [member, writeMember]

lemma following_cons (w : Written) (ws : List Written) :
    following (w :: ws) = ',' :: (w.member ++ following ws) := by
  simp [following]

lemma parted_following (ws : List Written) : Parted [] (following ws) := by
  intro _ c hc
  cases ws with
  | nil =>
    obtain rfl : '}' = c := Option.some.inj hc
    rfl
  | cons w ws =>
    obtain rfl : ',' = c := Option.some.inj hc
    rfl

lemma read_append (w : Written) {q : List Char} (hq : Parted [] q) :
    w.field.kind.read (w.text ++ q) = .ok (w.value, q) :=
  Kind.read_append w.reads hq

end Written

lemma writeObject_written (w : Written) (ws : List Written) :
    writeObject ((w :: ws).map Written.member) = '{' :: (w.member ++ Written.following ws) := by
  have hflat : (((w :: ws).map Written.member).intersperse [',']).flatten =
      w.member ++ ws.flatMap fun w => ',' :: w.member := by
    induction ws generalizing w with
    | nil => simp
    | cons v ws ih => simpa using ih v
  rw [writeObject, hflat, Written.following, List.cons_append, List.append_assoc]

lemma readKey_first (name : String) (cs : List Char) :
    readKey true (writeText name ++ cs) = .ok (some name.toList, cs) := by
  have hname := readText_written name.toList cs
  simp [readKey, writeText, skipSpace, isSpace, hname, Except.map]

lemma readKey_next (name : String) (cs : List Char) :
    readKey false (',' :: (writeText name ++ cs)) = .ok (some name.toList, cs) := by
  have hname := readText_written name.toList cs
  simp [readKey, writeText, skipSpace, isSpace, hname, Except.map]

variable {s : Record} {first : Bool} {seen ms : Members} {r : List Char}

lemma ReadsMembers.written (w : Written)
    (hk : readKey first cs = .ok (some w.field.name.toList, ':' :: (w.text ++ q)))
    (hf : s.field? w.field.name = some w.field) (hnew : seen.has w.field.name = false)
    (hq : Parted [] q) (h : ReadsMembers s false (w.entry :: seen) q ms r) :
    ReadsMembers s first seen cs ms r := by
  refine .known hk ?_ hnew rfl (w.read_append hq) h
  rw [String.ofList_toList]
  exact hf

lemma Record.field?_name {f : Field} (hn : (s.fields.map Field.name).Nodup) (hf : f ∈ s.fields) :
    s.field? f.name = some f := by
  cases h : s.field? f.name with
  | none => simpa using List.find?_eq_none.mp h f hf
  | some g =>
    have hname : g.name = f.name := by simpa using List.find?_some h
    rw [List.inj_on_of_nodup_map hn (List.mem_of_find?_eq_some h) hf hname]

lemma Members.has_eq_false {name : String} (h : name ∉ seen.map Prod.fst) :
    seen.has name = false := by
  rw [has, List.any_eq_false]
  intro p hp
  rw [beq_iff_eq]
  rintro rfl
  exact h (List.mem_map_of_mem hp)

lemma readsMembers_following (ws : List Written)
    (hf : ∀ w ∈ ws, s.field? w.field.name = some w.field)
    (hnew : (((ws.map Written.entry).reverse ++ seen).map Prod.fst).Nodup)
    (hall : s.fields.find? (fun (f : Field) =>
      !f.optional && !Members.has ((ws.map Written.entry).reverse ++ seen) f.name) = none) :
    ReadsMembers s false seen (Written.following ws) ((ws.map Written.entry).reverse ++ seen)
      [] := by
  induction ws generalizing seen with
  | nil => exact .closed rfl hall
  | cons w ws ih =>
    have hseen : ((w :: ws).map Written.entry).reverse ++ seen =
        (ws.map Written.entry).reverse ++ w.entry :: seen := by simp
    rw [hseen] at hnew hall ⊢
    have hw : w.field.name ∉ seen.map Prod.fst := by
      rw [List.map_append] at hnew
      exact (List.nodup_cons.mp hnew.of_append_right).1
    rw [Written.following_cons, Written.member_append]
    refine .written w (readKey_next _ _) (hf w List.mem_cons_self) (Members.has_eq_false hw)
      (Written.parted_following ws) (ih ?_ hnew hall)
    intro v hv
    exact hf v (List.mem_cons_of_mem w hv)

theorem Record.read_written {w : Written} {ws : List Written}
    (hf : ∀ v ∈ w :: ws, s.field? v.field.name = some v.field)
    (hnew : ((w :: ws).map fun (v : Written) => v.field.name).Nodup)
    (hall : s.fields.find? (fun (f : Field) =>
      !f.optional && !Members.has ((w :: ws).map Written.entry).reverse f.name) = none) :
    s.read (writeObject ((w :: ws).map Written.member)) =
      .ok ((w :: ws).map Written.entry).reverse := by
  have hseen : ((w :: ws).map Written.entry).reverse =
      (ws.map Written.entry).reverse ++ [w.entry] := by simp
  rw [hseen] at hall ⊢
  have hnames : (((ws.map Written.entry).reverse ++ [w.entry]).map Prod.fst).Nodup := by
    rw [← hseen, List.map_reverse, List.nodup_reverse, List.map_map]
    exact hnew
  have hrest := readsMembers_following ws (fun v hv => hf v (List.mem_cons_of_mem w hv)) hnames hall
  have hmembers : ReadsMembers s true [] (w.member ++ Written.following ws)
      ((ws.map Written.entry).reverse ++ [w.entry]) [] := by
    rw [Written.member_append]
    exact .written w (readKey_first _ _) (hf w List.mem_cons_self) rfl
      (Written.parted_following ws) hrest
  have hfront : s.readFront (writeObject ((w :: ws).map Written.member)) =
      .ok ((ws.map Written.entry).reverse ++ [w.entry], []) := by
    rw [writeObject_written]
    exact readMembers_iff.mpr hmembers
  rw [read, hfront]
  rfl

end FirmwareUpdate.Json
