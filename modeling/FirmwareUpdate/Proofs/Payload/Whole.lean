import FirmwareUpdate.Http.Client
import FirmwareUpdate.Proofs.Json.Record
import FirmwareUpdate.Proofs.Upload.Ending

/-! Payloads are taken as a whole or not at all. A text that decodes does not when it is cut before
its last character that is not white space, nor when anything but white space follows it; an answer
with such a body is never taken for another one. -/

namespace FirmwareUpdate

open Json

variable {α : Type} {decode : List Char → Except Fault α} {cs : List Char}

def Blank (cs : List Char) : Prop :=
  ∀ c ∈ cs, isSpace c = true

/-- What is left of a text that decodes, or what such a text has become. -/
inductive Damaged (decode : List Char → Except Fault α) : List Char → Prop
  | cut {front back : List Char} {a : α} (h : decode (front ++ back) = .ok a)
      (hb : ¬ Blank back) : Damaged decode front
  | followed {t tail : List Char} {a : α} (h : decode t = .ok a) (ht : ¬ Blank tail) :
      Damaged decode (t ++ tail)

def TakesWhole (decode : List Char → Except Fault α) : Prop :=
  ∀ cs, Damaged decode cs → ∃ f, decode cs = .error f

lemma takesWhole (s : Record) (f : Members → α) : TakesWhole fun cs => (s.read cs).map f := by
  intro cs h
  change ∃ e, (s.read cs).map f = .error e
  have hblank (tail : List Char) (ht : ¬ Blank tail) : skipSpace tail ≠ [] :=
    fun hs => ht (skipSpace_eq_nil.mp hs)
  cases h with
  | @cut _ back a h hb =>
    cases hread : s.read cs with
    | error e => exact ⟨_, rfl⟩
    | ok ms =>
      -- were the front a record already, the rest of the text would have been refused
      rw [Record.read_followed hread (hblank back hb)] at h
      cases h
  | @followed t tail a h ht =>
    obtain ⟨ms, hread, _⟩ := of_map_ok h
    rw [Record.read_followed hread (hblank tail ht)]
    exact ⟨_, rfl⟩

namespace Upload

variable {r : Response} {f : Fault}

/-- An upload that ends with this answer fails, or is cancelled before, and never succeeds. -/
structure Unreadable (r : Response) (message : String) : Prop where
  classified : Tracker.classify r = .error (.malformed message)
  answered : ∀ t : Tracker, t.status.isActive = true →
    t.answer r = t.finish .failed (.error (.malformed message))
  failed : ∀ image steps, .stall ∉ steps → ∃ t,
    ((drive image ⟨steps, .answered r⟩).run .never).ending =
      some (t, .error (.malformed message))
  cancelled : ∀ image steps c t result,
    ((drive image ⟨steps, .answered r⟩).run c).ending = some (t, result) →
    result = .error .cancelled ∨ result = .error (.malformed message)

lemma Decides.eq_malformed {result : Result} (h : Decides (.answered r) result)
    (h2 : 200 ≤ r.status) (h3 : r.status ≤ 299)
    (hd : UploadVerdict.decode r.body.toList = .error f) :
    result = .error (.malformed (f.message r.body.toList)) := by
  cases h with
  | accepted _ _ hd' | rejected _ _ hd' => cases hd.symm.trans hd'
  | malformed _ _ hd' =>
    cases hd.symm.trans hd'
    rfl
  | http hs => omega

lemma unreadable (h2 : 200 ≤ r.status) (h3 : r.status ≤ 299)
    (hd : UploadVerdict.decode r.body.toList = .error f) :
    Unreadable r (f.message r.body.toList) where
  classified := (classify_decides r).eq_malformed h2 h3 hd
  answered t ha := by
    obtain ⟨result, hr, heq⟩ := answer_active ha r
    obtain rfl := hr.eq_malformed h2 h3 hd
    exact heq
  failed image steps hs := by
    obtain ⟨t, result, ht, hr, _⟩ :=
      proceed_never (p := ⟨begun image, [], false, 0⟩) hs (follows_begun image) (.answered r)
    obtain rfl := hr.eq_malformed h2 h3 hd
    refine ⟨t, ?_⟩
    rw [Activity.run, drive_going rfl, Run.ending_after]
    exact ht
  cancelled image steps c t result h := by
    rcases drive_gives image ⟨steps, .answered r⟩ c t result h with hc | hr
    · exact .inl hc
    · exact .inr (hr.eq_malformed h2 h3 hd)

end Upload

namespace Http.Client

lemma decoded_refused {body : String} (context : String)
    (hd : ∃ f, decode body.toList = .error f) :
    ∃ causes, decoded context decode (.ok body) = .error causes := by
  obtain ⟨f, hd⟩ := hd
  rw [decoded, hd]
  exact ⟨_, rfl⟩

end Http.Client

/-- A text that lacks its end, or has something after it, is no payload; a client that is given
one calls it a failure. -/
theorem payloads_whole :
    TakesWhole DeviceInfo.decode ∧ TakesWhole UploadVerdict.decode ∧
    TakesWhole RollbackVerdict.decode ∧
    (∀ (r : Upload.Response), 200 ≤ r.status → r.status ≤ 299 →
      Damaged UploadVerdict.decode r.body.toList → ∃ message, Upload.Unreadable r message) ∧
    (∀ (client : Http.Client) net n d body, client.fetch net .info n = some (d, .ok body) →
      Damaged DeviceInfo.decode body.toList →
      ∃ causes, client.info net n = some (d, .error causes)) ∧
    ∀ (client : Http.Client) net n d body, client.fetch net .rollback n = some (d, .ok body) →
      Damaged RollbackVerdict.decode body.toList →
      ∃ causes, client.rollback net n = some (d, .error causes) := by
  have hinfo : TakesWhole DeviceInfo.decode := takesWhole _ _
  have hupload : TakesWhole UploadVerdict.decode := takesWhole _ _
  have hrollback : TakesWhole RollbackVerdict.decode := takesWhole _ _
  refine ⟨hinfo, hupload, hrollback, ?_, ?_, ?_⟩
  · intro r h2 h3 hr
    obtain ⟨f, hd⟩ := hupload _ hr
    exact ⟨_, Upload.unreadable h2 h3 hd⟩
  · intro client net n d body hf hb
    obtain ⟨causes, hc⟩ := Http.Client.decoded_refused "failed to parse ota info" (hinfo _ hb)
    exact ⟨causes, by simp only [Http.Client.info, hf, Option.map_some, hc]⟩
  · intro client net n d body hf hb
    obtain ⟨causes, hc⟩ :=
      Http.Client.decoded_refused "failed to parse rollback response" (hrollback _ hb)
    exact ⟨causes, by simp only [Http.Client.rollback, hf, Option.map_some, hc]⟩

theorem payloads_whole_verdict :
    UploadVerdict.decode "\x7b\"success\":true\x7d".toList = .ok ⟨true, none⟩ ∧
    (∃ f, UploadVerdict.decode "\x7b\"success\":true".toList = .error f) ∧
    ∃ message, Upload.Unreadable ⟨200, "\x7b\"success\":true\x7d, x"⟩ message := by
  have hd : UploadVerdict.decode "\x7b\"success\":true\x7d".toList = .ok ⟨true, none⟩ := by
    have hok : (UploadVerdict.decode "\x7b\"success\":true\x7d".toList).toOption =
        some ⟨true, none⟩ := by decide +kernel
    cases h : UploadVerdict.decode "\x7b\"success\":true\x7d".toList with
    | error f =>
      rw [h] at hok
      cases hok
    | ok v =>
      rw [h] at hok
      cases hok
      rfl
  have hcut : UploadVerdict.decode ("\x7b\"success\":true".toList ++ ['\x7d']) =
      .ok ⟨true, none⟩ := hd
  have hfollowed : Damaged UploadVerdict.decode
      ("\x7b\"success\":true\x7d".toList ++ ", x".toList) :=
    .followed hd (by simp [Blank, isSpace])
  obtain ⟨_, hupload, _, hanswer, _⟩ := payloads_whole
  refine ⟨hd, ?_, ?_⟩
  · exact hupload _ (.cut hcut (by simp [Blank, isSpace]))
  · exact hanswer ⟨200, _⟩ (by decide) (by decide) hfollowed

end FirmwareUpdate
