import FirmwareUpdate.CommandLine.Arguments
import Mathlib.Tactic

/-! The flag that names a device, in front of a command line that names none: the same is asked for, with
that device. -/

namespace FirmwareUpdate.CommandLine

def Options.at (o : Options) (url : String) : Options := { o with device := some url }

def Request.under (o : Options) : Request → Request
  | .run _ c => .run o c
  | r => r

def Word.after (url : String) : Word → Word
  | .options o => if o.device.isSome then .stop misused else .options (o.at url)
  | .deviceNext o => .deviceNext (o.at url)
  | .command => .command
  | .stop r => .stop r

def Word.Keeps (o : Options) : Word → Prop
  | .options q => o.device.isSome = true → q.device.isSome = true
  | .stop r => ∀ p c, r ≠ .ok (.run p c)
  | _ => True

variable {o p q : Options} {c : Command} {url : String}

lemma misused_stops : ∀ p c, misused ≠ .ok (.run p c) := nofun

lemma setYes_device (h : setYes o = .options q) : q.device = o.device := by
  rw [setYes] at h
  split_ifs at h
  cases h
  rfl

lemma setYes_at (h : o.device = none) (url : String) : setYes (o.at url) = (setYes o).after url := by
  obtain ⟨device, yes⟩ := o
  obtain rfl : device = none := h
  cases yes <;> rfl

lemma setDevice_at (h : o.device = none) (url : String) (cs : List Char) :
    setDevice (o.at url) cs = (setDevice o cs).after url := by
  obtain ⟨device, yes⟩ := o
  obtain rfl : device = none := h
  rfl

lemma parseShort_at (h : o.device = none) (url : String) (cs : List Char) :
    parseShort (o.at url) cs = (parseShort o cs).after url := by
  fun_induction parseShort o cs with
  | case1 o => simp [parseShort, Word.after, h]
  | case2 o cs q hyes ih =>
    have hq : q.device = none := (setYes_device hyes).trans h
    have hafter := setYes_at h url
    simp only [hyes, Word.after, hq, Option.isSome_none, Bool.false_eq_true, if_false] at hafter
    rw [← ih hq, parseShort, hafter]
  | case3 o cs hstops =>
    cases hw : setYes o with
    | options q => exact absurd hw (hstops q)
    | _ => simp [parseShort, setYes_at h, hw, Word.after]
  | case4 o => rfl
  | case5 o cs => exact setDevice_at h url cs
  | case6 o cs hne hns => simp [parseShort, setDevice_at h]
  | case7 => rfl
  | case8 => rfl
  | case9 => simp_all [parseShort, Word.after]

lemma parseWord_at (h : o.device = none) (url a : String) :
    parseWord (o.at url) a = (parseWord o a).after url := by
  unfold parseWord
  split
  · split_ifs
    · exact setYes_at h url
    · rfl
    · rfl
    · rfl
    · exact setDevice_at h url _
    · rfl
  · exact parseShort_at h url _
  · rfl

lemma setYes_keeps (o : Options) : (setYes o).Keeps o := by
  rw [setYes]
  split_ifs
  · exact misused_stops
  · exact id

lemma setDevice_keeps (o : Options) (cs : List Char) : (setDevice o cs).Keeps o := by
  rw [setDevice]
  split_ifs
  · exact misused_stops
  · exact fun _ => rfl

lemma parseShort_keeps (o : Options) (cs : List Char) : (parseShort o cs).Keeps o := by
  fun_induction parseShort o cs with
  | case1 o => exact id
  | case2 o cs q hyes ih =>
    have hdevice := setYes_device hyes
    cases hw : parseShort q cs with
    | options r =>
      rw [hw, Word.Keeps, hdevice] at ih
      exact ih
    | stop r =>
      rw [hw] at ih
      exact ih
    | deviceNext r => trivial
    | command => trivial
  | case3 o cs hstops => exact setYes_keeps o
  | case4 o => trivial
  | case5 o cs => exact setDevice_keeps o cs
  | case6 o cs => exact setDevice_keeps o cs
  | _ => exact nofun

lemma parseWord_keeps (o : Options) (a : String) : (parseWord o a).Keeps o := by
  unfold parseWord
  split
  · split_ifs
    · exact setYes_keeps o
    · exact nofun
    · exact nofun
    · trivial
    · exact setDevice_keeps o _
    · exact misused_stops
  · exact parseShort_keeps o _
  · trivial

lemma parseOperands_under (topic : Topic) (finish : Option String → Option Command) (o p : Options)
    (rest : List String) : ∀ literal path, parseOperands topic finish p literal path rest =
      (parseOperands topic finish o literal path rest).map (Request.under p) := by
  induction rest with
  | nil =>
    intro literal path
    simp only [parseOperands]
    cases finish path <;> rfl
  | cons a rest ih =>
    intro literal path
    simp only [parseOperands]
    by_cases hdashes : (!literal && a == "--") = true
    · rw [if_pos hdashes, if_pos hdashes]
      exact ih true path
    rw [if_neg hdashes, if_neg hdashes]
    by_cases hhelp : (!literal && (a == "--help" || "-h".toList.isPrefixOf a.toList)) = true
    · rw [if_pos hhelp, if_pos hhelp]
      rfl
    rw [if_neg hhelp, if_neg hhelp]
    by_cases hoption : (!literal && isOption a) = true
    · rw [if_pos hoption, if_pos hoption]
      rfl
    rw [if_neg hoption, if_neg hoption]
    split
    · by_cases ha : a = ""
      · rw [if_pos ha, if_pos ha]
        rfl
      · rw [if_neg ha, if_neg ha]
        exact ih literal (some a)
    · rfl

lemma parseTopic_under (p : Options) (rest : List String) :
    parseTopic rest = (parseTopic rest).map (Request.under p) := by
  unfold parseTopic
  split <;> rfl

lemma parseCommand_under (o p : Options) (a : String) (rest : List String) :
    parseCommand p a rest = (parseCommand o a rest).map (Request.under p) := by
  unfold parseCommand
  split
  · exact parseOperands_under _ _ o p rest _ _
  · exact parseOperands_under _ _ o p rest _ _
  · exact parseOperands_under _ _ o p rest _ _
  · exact parseTopic_under p rest
  · rfl

lemma parseCommand_run {a : String} {rest : List String}
    (h : parseCommand o a rest = .ok (.run p c)) : p = o := by
  have hself := parseCommand_under o o a rest
  rw [h] at hself
  cases hself
  rfl

lemma parseAfterClash_run (o : Options) (rest : List String) :
    parseAfterClash o rest ≠ .ok (.run p c) := by
  cases rest with
  | nil => exact misused_stops p c
  | cons a rest =>
    rw [parseAfterClash]
    cases parseWord o a with
    | command =>
      cases parseCommand o a rest with
      | error e => exact misused_stops p c
      | ok r =>
        cases r with
        | help topic => exact nofun
        | _ => exact misused_stops p c
    | _ => exact misused_stops p c

lemma parseFrom_device {args : List String} : ∀ {o : Options} {next : Bool},
    o.device.isSome = true ∨ next = true → parseFrom o next args = .ok (.run p c) →
      p.device.isSome = true := by
  induction args with
  | nil => exact fun _ h => absurd h (misused_stops p c)
  | cons a rest ih =>
    intro o next hset h
    cases next with
    | true =>
      rw [parseFrom, if_pos rfl] at h
      by_cases ha : isOption a = true
      · rw [if_pos ha] at h
        exact absurd h (misused_stops p c)
      · rw [if_neg ha] at h
        cases hd : setDevice o a.toList with
        | options q =>
          simp only [hd] at h
          rw [setDevice] at hd
          split_ifs at hd
          cases hd
          exact ih (.inl rfl) h
        | _ =>
          simp only [hd] at h
          exact absurd h (parseAfterClash_run o rest)
    | false =>
      have ho := hset.resolve_right nofun
      have hkeeps := parseWord_keeps o a
      rw [parseFrom, if_neg nofun] at h
      cases hw : parseWord o a with
      | options q =>
        simp only [hw] at h hkeeps
        exact ih (.inl (hkeeps ho)) h
      | deviceNext q =>
        simp only [hw] at h
        exact ih (.inr rfl) h
      | command =>
        simp only [hw] at h
        rw [parseCommand_run h]
        exact ho
      | stop r =>
        simp only [hw] at h hkeeps
        exact absurd h (hkeeps p c)

lemma parseFrom_at {args : List String} : ∀ {o : Options}, o.device = none →
    parseFrom o false args = .ok (.run p c) → p.device = none →
      parseFrom (o.at url) false args = .ok (.run (p.at url) c) := by
  induction args with
  | nil => exact fun _ h => absurd h (misused_stops p c)
  | cons a rest ih =>
    intro o ho h hp
    have hnone : ¬ p.device.isSome = true := by simp [hp]
    have hkeeps := parseWord_keeps o a
    have hafter := parseWord_at ho url a
    rw [parseFrom, if_neg nofun] at h ⊢
    rw [hafter]
    cases hw : parseWord o a with
    | options q =>
      simp only [hw] at h
      -- a device named by this word would still be named at the end
      by_cases hq : q.device.isSome = true
      · exact absurd (parseFrom_device (.inl hq) h) hnone
      · simp only [Word.after, if_neg hq]
        exact ih (Option.not_isSome_iff_eq_none.mp hq) h hp
    | deviceNext q =>
      simp only [hw] at h
      exact absurd (parseFrom_device (.inr rfl) h) hnone
    | command =>
      simp only [hw] at h
      simp only [Word.after]
      rw [parseCommand_under o, h, parseCommand_run h]
      rfl
    | stop r =>
      simp only [hw] at h hkeeps
      exact absurd h (hkeeps p c)

lemma parse_flag {args : List String} (hurl : isOption url = false)
    (h : parse args = .ok (.run p c)) (hp : p.device = none) :
    parse ("--device" :: url :: args) = .ok (.run (p.at url) c) := by
  have hflag : parse ("--device" :: url :: args) = parseFrom ⟨none, false⟩ true (url :: args) := rfl
  rw [hflag, parseFrom, if_pos rfl, hurl, if_neg nofun]
  have hset : setDevice ⟨none, false⟩ url.toList = .options (Options.at ⟨none, false⟩ url) := by
    rw [setDevice, if_neg nofun, String.ofList_toList]
    rfl
  simp only [hset]
  exact parseFrom_at rfl h hp

end FirmwareUpdate.CommandLine
