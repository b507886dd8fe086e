import FirmwareUpdate.Proofs.Json.Member

/-! What an object states of a field does not depend on the order of the members, nor on those
that the record does not know. A field is stated once, or it is optional and not stated. -/

namespace FirmwareUpdate.Json

def named (name : String) (ms : List Member) : List Member :=
  ms.filter fun m => m.name? = some name

def Legible (ms : List Member) : Prop :=
  ∀ m ∈ ms, ∃ name, m.name? = some name

namespace Field

def stated (f : Field) (ms : List Member) : List (Option Value) :=
  (named f.name ms).map fun m => f.kind.value? m.value

def offers (f : Field) (seen : Members) (ms : List Member) : List (Option Value) :=
  (seen.lookup f.name).toList.map some ++ f.stated ms

inductive Settles (f : Field) : List (Option Value) → Option Value → Prop
  | once (v : Value) : f.Settles [some v] (some v)
  | absent (ho : f.optional = true) : f.Settles [] none

end Field

variable {s : Record} {f : Field} {seen : Members} {m : Member} {ms ms' us : List Member}
  {name : String} {w : Value} {os : List (Option Value)} {g : Field → Option Value}

lemma has_eq_lookup (seen : Members) (name : String) :
    seen.has name = (seen.lookup name).isSome := by
  induction seen with
  | nil => rfl
  | cons p seen ih =>
    rw [Members.has] at ih ⊢
    rw [List.any_cons, ih, List.lookup_cons]
    by_cases h : p.1 = name
    · simp [h]
    · have h' : (name == p.1) = false := beq_eq_false_iff_ne.mpr (Ne.symm h)
      simp [h, h']

lemma stated_cons_of_ne (h : m.name? ≠ some f.name) : f.stated (m :: ms) = f.stated ms := by
  simp [Field.stated, named, h]

lemma stated_cons_of_eq (h : m.name? = some f.name) :
    f.stated (m :: ms) = f.kind.value? m.value :: f.stated ms := by
  simp [Field.stated, named, h]

lemma Record.field?_eq_some (h : s.field? name = some f) : f ∈ s.fields ∧ f.name = name :=
  ⟨List.mem_of_find?_eq_some h, by simpa using List.find?_some h⟩

lemma Record.field?_eq_none : s.field? name = none ↔ name ∉ s.fields.map Field.name := by
  simp [field?]

lemma legible_cons (h : m.name? = some name) : Legible (m :: ms) ↔ Legible ms := by
  simp [Legible, h]

lemma find?_missing :
    s.fields.find? (fun (f : Field) => !f.optional && !seen.has f.name) = none ↔
      ∀ f ∈ s.fields, seen.lookup f.name = none → f.optional = true := by
  rw [List.find?_eq_none]
  apply forall₂_congr
  intro f hf
  rw [has_eq_lookup]
  cases seen.lookup f.name with
  | none => simp
  | some v => simp

def Record.Foreign (s : Record) (m : Member) : Prop :=
  ∃ name, m.name? = some name ∧ name ∉ s.fields.map Field.name

lemma settles_nil {v : Option Value} :
    f.Settles (f.offers seen []) v ↔
      seen.lookup f.name = v ∧ (seen.lookup f.name = none → f.optional = true) := by
  unfold Field.offers
  cases seen.lookup f.name with
  | none =>
    constructor
    · intro h
      cases h with
      | absent ho => exact ⟨rfl, fun _ => ho⟩
    · rintro ⟨rfl, ho⟩
      exact .absent (ho rfl)
  | some w =>
    constructor
    · rintro ⟨⟩
      exact ⟨rfl, nofun⟩
    · rintro ⟨rfl, -⟩
      exact .once w

lemma offers_other (h : m.name? = some name) (hne : name ≠ f.name) :
    f.offers seen (m :: ms) = f.offers seen ms := by
  have hm : m.name? ≠ some f.name := by
    rw [h]
    exact fun heq => hne (Option.some.inj heq)
  rw [Field.offers, stated_cons_of_ne hm, ← Field.offers]

lemma offers_seen (h : m.name? = some f.name) (hseen : seen.has f.name = true) (v : Option Value) :
    ¬ f.Settles (f.offers seen (m :: ms)) v := by
  rw [has_eq_lookup] at hseen
  obtain ⟨w, hw⟩ := Option.isSome_iff_exists.mp hseen
  rw [Field.offers, hw, stated_cons_of_eq h]
  rintro ⟨⟩

lemma offers_unreadable (h : m.name? = some f.name) (hv : f.kind.value? m.value = none)
    (v : Option Value) : ¬ f.Settles (f.offers seen (m :: ms)) v := by
  rw [Field.offers, stated_cons_of_eq h, hv]
  cases seen.lookup f.name with
  | none => rintro ⟨⟩
  | some w => rintro ⟨⟩

lemma offers_taken (h : m.name? = some f.name) (hseen : seen.has f.name = false)
    (hw : f.kind.value? m.value = some w) :
    f.offers seen (m :: ms) = f.offers ((f.name, w) :: seen) ms := by
  have hlookup : seen.lookup f.name = none := by
    rw [has_eq_lookup] at hseen
    exact Option.isNone_iff_eq_none.mp (by simpa using hseen)
  rw [Field.offers, stated_cons_of_eq h, hw, hlookup, Field.offers, List.lookup_cons_self]
  rfl

lemma offers_kept (hne : name ≠ f.name) : f.offers ((name, w) :: seen) ms = f.offers seen ms := by
  have hlookup : List.lookup f.name ((name, w) :: seen) = seen.lookup f.name := by
    rw [List.lookup_cons, beq_eq_false_iff_ne.mpr hne.symm]
  rw [Field.offers, hlookup, ← Field.offers]

theorem gather_iff (hn : (s.fields.map Field.name).Nodup) :
    (∃ es, gather s seen ms = some es ∧ ∀ f ∈ s.fields, es.lookup f.name = g f) ↔
      Legible ms ∧ ∀ f ∈ s.fields, f.Settles (f.offers seen ms) (g f) := by
  induction ms generalizing seen with
  | nil =>
    rw [gather]
    have hlegible : Legible [] := by simp [Legible]
    simp only [settles_nil, hlegible, true_and]
    split
    · rename_i f hmissing
      refine iff_of_false (by simp) ?_
      intro hall
      have hnone := find?_missing.mpr fun f hf => (hall f hf).2
      cases hmissing.symm.trans hnone
    · rename_i hmissing
      have hoptional := find?_missing.mp hmissing
      constructor
      · rintro ⟨es, ⟨⟩, hall⟩ f hf
        exact ⟨hall f hf, hoptional f hf⟩
      · intro hall
        exact ⟨seen, rfl, fun f hf => (hall f hf).1⟩
  | cons m ms ih =>
    rw [gather]
    cases hname : m.name? with
    | none =>
      refine iff_of_false (by simp) ?_
      rintro ⟨hlegible, -⟩
      obtain ⟨name, h⟩ := hlegible m List.mem_cons_self
      cases hname.symm.trans h
    | some name =>
      rw [Option.bind_some, legible_cons hname]
      cases hfield : s.field? name with
      | none =>
        have hforeign := Record.field?_eq_none.mp hfield
        dsimp only
        rw [ih]
        apply and_congr_right
        intro _
        apply forall₂_congr
        intro f hf
        rw [offers_other hname]
        rintro rfl
        exact hforeign (List.mem_map_of_mem hf)
      | some f =>
        obtain ⟨hf, rfl⟩ := Record.field?_eq_some hfield
        dsimp only
        split_ifs with hseen
        · refine iff_of_false (by simp) ?_
          rintro ⟨-, hall⟩
          exact offers_seen hname hseen _ (hall f hf)
        · cases hw : f.kind.value? m.value with
          | none =>
            refine iff_of_false (by simp) ?_
            rintro ⟨-, hall⟩
            exact offers_unreadable hname hw _ (hall f hf)
          | some w =>
            rw [Option.bind_some, ih]
            apply and_congr_right
            intro _
            apply forall₂_congr
            intro f' hf'
            by_cases hsame : f.name = f'.name
            · obtain rfl := List.inj_on_of_nodup_map hn hf hf' hsame
              rw [offers_taken hname (Bool.eq_false_iff.mpr hseen) hw]
            · rw [offers_kept hsame, offers_other hname hsame]

theorem Record.read_iff {cs : List Char} (hn : (s.fields.map Field.name).Nodup)
    (h : Document (objectTokens ms) cs) :
    (∃ es, s.read cs = .ok es ∧ ∀ f ∈ s.fields, es.lookup f.name = g f) ↔
      Legible ms ∧ ∀ f ∈ s.fields, f.Settles (f.stated ms) (g f) := by
  have hread := s.read_object h
  have hgather : (∃ es, gather s [] ms = some es ∧ ∀ f ∈ s.fields, es.lookup f.name = g f) ↔
      Legible ms ∧ ∀ f ∈ s.fields, f.Settles (f.stated ms) (g f) := gather_iff hn
  rw [← hread] at hgather
  refine Iff.trans ?_ hgather
  cases s.read cs with
  | error e => simp [Except.toOption]
  | ok es => simp [Except.toOption]

lemma Legible.perm (h : Legible ms) (hp : ms.Perm ms') : Legible ms' :=
  fun m hm => h m (hp.mem_iff.mpr hm)

lemma stated_perm (hp : ms.Perm ms') : (f.stated ms).Perm (f.stated ms') :=
  (hp.filter _).map _

lemma Field.Settles.perm {os os' : List (Option Value)} {v : Option Value} (h : f.Settles os v)
    (hp : os.Perm os') : f.Settles os' v := by
  cases h with
  | once v =>
    rw [← List.singleton_perm.mp hp]
    exact .once v
  | absent ho =>
    rw [List.nil_perm.mp hp]
    exact .absent ho

lemma Field.Settles.length_le {v : Option Value} (h : f.Settles os v) : os.length ≤ 1 := by
  cases h with
  | once v => exact Nat.le_refl 1
  | absent ho => exact Nat.zero_le 1

lemma stated_repeated {m' : Member} (h : m.name? = some f.name) (h' : m'.name? = some f.name)
    (front middle back : List Member) :
    2 ≤ (f.stated (front ++ m :: (middle ++ m' :: back))).length := by
  simp only [Field.stated, named, List.filter_append, List.filter_cons, h, h', decide_true, if_true,
    List.length_map, List.length_append, List.length_cons]
  omega

lemma stated_eq_nil (h : named f.name ms = []) : f.stated ms = [] := by
  rw [Field.stated, h, List.map_nil]

lemma stated_foreign (hu : ∀ u ∈ us, s.Foreign u) (hf : f ∈ s.fields) :
    f.stated (ms ++ us) = f.stated ms := by
  have hnone : named f.name us = [] := by
    rw [named, List.filter_eq_nil_iff]
    intro u hm
    obtain ⟨name, hname, hforeign⟩ := hu u hm
    rw [hname, decide_eq_true_eq, Option.some.injEq]
    rintro rfl
    exact hforeign (List.mem_map_of_mem hf)
  have hnamed : named f.name (ms ++ us) = named f.name ms := by
    rw [named, List.filter_append, ← named, ← named, hnone, List.append_nil]
  rw [Field.stated, hnamed, ← Field.stated]

lemma legible_foreign (hu : ∀ u ∈ us, s.Foreign u) : Legible (ms ++ us) ↔ Legible ms := by
  constructor
  · intro h m hm
    exact h m (List.mem_append_left us hm)
  · intro h m hm
    rcases List.mem_append.mp hm with hm | hm
    · exact h m hm
    · obtain ⟨name, hname, -⟩ := hu m hm
      exact ⟨name, hname⟩

end FirmwareUpdate.Json
