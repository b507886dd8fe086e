import FirmwareUpdate.Proofs.Json.Stated
import FirmwareUpdate.Proofs.Payload.RoundTrip

/-! Payloads in any order. What an object decodes to depends neither on the order of its members
nor on the white space between its tokens, and members that are not known change nothing. -/

namespace FirmwareUpdate

open Json

variable {α : Type} {s : Record} {F : Members → α} {f : Field} {ms ms' us : List Member}
  {cs cs' : List Char}

def Faithful (s : Record) (F : Members → α) : Prop :=
  ∀ es es' : Members, (∀ f ∈ s.fields, es.lookup f.name = es'.lookup f.name) → F es = F es'

structure Unordered (s : Record) (decode : List Char → Except Fault α) : Prop where
  unordered : ∀ ms us ms' cs cs', ms'.Perm (ms ++ us) → (∀ u ∈ us, s.Foreign u) →
    Document (objectTokens ms) cs → Document (objectTokens ms') cs' →
    (decode cs').toOption = (decode cs).toOption
  succeeds : ∀ ms cs, Document (objectTokens ms) cs →
    ((∃ a, decode cs = .ok a) ↔ Legible ms ∧ ∀ f ∈ s.fields, ∃ v, f.Settles (f.stated ms) v)
  lacking : ∀ ms cs, ∀ f ∈ s.fields, f.optional = false → named f.name ms = [] →
    Document (objectTokens ms) cs → ∃ e, decode cs = .error e
  repeated : ∀ front middle back m m' cs, ∀ f ∈ s.fields,
    m.name? = some f.name → m'.name? = some f.name →
    Document (objectTokens (front ++ m :: (middle ++ m' :: back))) cs → ∃ e, decode cs = .error e

lemma read_alike (hn : (s.fields.map Field.name).Nodup) {es : Members}
    (h : Document (objectTokens ms) cs) (h' : Document (objectTokens ms') cs')
    (hlegible : Legible ms → Legible ms')
    (hstated : ∀ f ∈ s.fields, (f.stated ms).Perm (f.stated ms')) (hread : s.read cs = .ok es) :
    ∃ es', s.read cs' = .ok es' ∧ ∀ f ∈ s.fields, es'.lookup f.name = es.lookup f.name := by
  obtain ⟨hms, hsettles⟩ :=
    (Record.read_iff (g := fun f => es.lookup f.name) hn h).mp ⟨es, hread, fun f _ => rfl⟩
  apply (Record.read_iff hn h').mpr
  exact ⟨hlegible hms, fun f hf => (hsettles f hf).perm (hstated f hf)⟩

lemma decode_alike (hn : (s.fields.map Field.name).Nodup) (hF : Faithful s F)
    (h : Document (objectTokens ms) cs) (h' : Document (objectTokens ms') cs')
    (hlegible : Legible ms ↔ Legible ms')
    (hstated : ∀ f ∈ s.fields, (f.stated ms).Perm (f.stated ms')) :
    ((s.read cs').map F).toOption = ((s.read cs).map F).toOption := by
  cases hread : s.read cs with
  | ok es =>
    obtain ⟨es', hread', hlookup⟩ := read_alike hn h h' hlegible.mp hstated hread
    rw [hread']
    exact congrArg some (hF es' es hlookup)
  | error e =>
    cases hread' : s.read cs' with
    | error e' => rfl
    | ok es' =>
      obtain ⟨es, hread'', -⟩ :=
        read_alike hn h' h hlegible.mpr (fun f hf => (hstated f hf).symm) hread'
      cases hread.symm.trans hread''

lemma decode_iff (hn : (s.fields.map Field.name).Nodup) (h : Document (objectTokens ms) cs) :
    (∃ a, (s.read cs).map F = .ok a) ↔
      Legible ms ∧ ∀ f ∈ s.fields, ∃ v, f.Settles (f.stated ms) v := by
  constructor
  · rintro ⟨a, ha⟩
    obtain ⟨es, hread, -⟩ := of_map_ok ha
    obtain ⟨hlegible, hsettles⟩ :=
      (Record.read_iff (g := fun f => es.lookup f.name) hn h).mp ⟨es, hread, fun f _ => rfl⟩
    exact ⟨hlegible, fun f hf => ⟨_, hsettles f hf⟩⟩
  · rintro ⟨hlegible, hall⟩
    choose! g hg using hall
    obtain ⟨es, hread, -⟩ := (Record.read_iff hn h).mpr ⟨hlegible, hg⟩
    rw [hread]
    exact ⟨F es, rfl⟩

lemma decode_error (hn : (s.fields.map Field.name).Nodup) (h : Document (objectTokens ms) cs)
    (hf : f ∈ s.fields) (hnot : ∀ v, ¬ f.Settles (f.stated ms) v) :
    ∃ e, (s.read cs).map F = .error e := by
  have hfails : ¬ ∃ a, (s.read cs).map F = .ok a := by
    rw [decode_iff hn h]
    rintro ⟨-, hall⟩
    obtain ⟨v, hv⟩ := hall f hf
    exact hnot v hv
  cases hread : (s.read cs).map F with
  | error e => exact ⟨e, rfl⟩
  | ok a => exact absurd ⟨a, hread⟩ hfails

lemma unordered (hn : (s.fields.map Field.name).Nodup) (hF : Faithful s F) :
    Unordered s fun cs => (s.read cs).map F where
  unordered ms us ms' cs cs' hp hu h h' := by
    apply decode_alike hn hF h h'
    · rw [← legible_foreign hu]
      exact ⟨fun hl => hl.perm hp.symm, fun hl => hl.perm hp⟩
    · intro f hf
      rw [← stated_foreign hu hf]
      exact stated_perm hp.symm
  succeeds ms cs h := decode_iff hn h
  lacking ms cs f hf ho hnamed h := by
    apply decode_error hn h hf
    rw [stated_eq_nil hnamed]
    intro v hv
    cases hv with
    | absent ho' => cases ho.symm.trans ho'
  repeated front middle back m m' cs f hf hm hm' h := by
    apply decode_error hn h hf
    intro v hv
    have htwo := stated_repeated hm hm' front middle back
    exact absurd hv.length_le (by omega)

lemma lookup_absent (hn : (s.fields.map Field.name).Nodup) {es : Members}
    (h : Document (objectTokens ms) cs) (hread : s.read cs = .ok es) (hf : f ∈ s.fields)
    (hnamed : named f.name ms = []) : es.lookup f.name = none := by
  obtain ⟨-, hsettles⟩ :=
    (Record.read_iff (g := fun f => es.lookup f.name) hn h).mp ⟨es, hread, fun f _ => rfl⟩
  have hv := hsettles f hf
  rw [stated_eq_nil hnamed] at hv
  generalize es.lookup f.name = v at hv ⊢
  cases hv
  rfl

lemma text?_absent (hn : (s.fields.map Field.name).Nodup) {es : Members}
    (h : Document (objectTokens ms) cs) (hread : s.read cs = .ok es) (hf : f ∈ s.fields)
    (hnamed : named f.name ms = []) : es.text? f.name = none := by
  rw [Members.text?, lookup_absent hn h hread hf hnamed]

lemma DeviceInfo.faithful : Faithful DeviceInfo.record DeviceInfo.ofMembers := by
  intro es es' h
  simp only [DeviceInfo.record, List.forall_mem_cons, List.not_mem_nil, false_implies,
    implies_true, and_true] at h
  obtain ⟨hversion, hdate, hidf, hrollback, hlabel, hsize⟩ := h
  simp only [DeviceInfo.ofMembers, Members.text?, Members.flag?, Members.size?, hversion, hdate,
    hidf, hrollback, hlabel, hsize]

lemma UploadVerdict.faithful : Faithful UploadVerdict.record UploadVerdict.ofMembers := by
  intro es es' h
  simp only [UploadVerdict.record, List.forall_mem_cons, List.not_mem_nil, false_implies,
    implies_true, and_true] at h
  obtain ⟨hsuccess, herror⟩ := h
  simp only [UploadVerdict.ofMembers, Members.text?, Members.flag?, hsuccess, herror]

lemma RollbackVerdict.faithful : Faithful RollbackVerdict.record RollbackVerdict.ofMembers := by
  intro es es' h
  simp only [RollbackVerdict.record, List.forall_mem_cons, List.not_mem_nil, false_implies,
    implies_true, and_true] at h
  obtain ⟨hsuccess, hmessage⟩ := h
  simp only [RollbackVerdict.ofMembers, Members.text?, Members.flag?, hsuccess, hmessage]

structure DeviceInfo.Defaults (ms : List Member) (info : DeviceInfo) : Prop where
  version : named "version" ms = [] → info.version = none
  buildDate : named "build_date" ms = [] → info.buildDate = none
  idfVersion : named "idf_version" ms = [] → info.idfVersion = none
  canRollback : named "can_rollback" ms = [] → info.canRollback = false
  partitionLabel : named "partition_label" ms = [] → info.partitionLabel = none
  appSize : named "app_size" ms = [] → info.appSize = none

lemma DeviceInfo.defaults {info : DeviceInfo} (h : Document (objectTokens ms) cs)
    (hd : DeviceInfo.decode cs = .ok info) : DeviceInfo.Defaults ms info := by
  obtain ⟨es, hread, rfl⟩ := of_map_ok hd
  have habsent (f : Field) (hf : f ∈ DeviceInfo.record.fields) (hnamed : named f.name ms = []) :
      es.lookup f.name = none := lookup_absent DeviceInfo.names_nodup h hread hf hnamed
  simp only [DeviceInfo.record, List.forall_mem_cons, List.not_mem_nil, false_implies,
    implies_true, and_true] at habsent
  obtain ⟨hversion, hdate, hidf, hrollback, hlabel, hsize⟩ := habsent
  constructor
  all_goals
    intro hnamed
    simp only [DeviceInfo.ofMembers, Members.text?, Members.flag?, Members.size?,
      Option.getD_none, hversion, hdate, hidf, hrollback, hlabel, hsize, hnamed]

/-- Members may come in any order, with any others among them and any white space around them; what
is optional may be left out, and what is known may not be said twice. -/
theorem payloads_unordered :
    Unordered DeviceInfo.record DeviceInfo.decode ∧
    Unordered UploadVerdict.record UploadVerdict.decode ∧
    Unordered RollbackVerdict.record RollbackVerdict.decode ∧
    (∀ ms cs info, Document (objectTokens ms) cs → DeviceInfo.decode cs = .ok info →
      DeviceInfo.Defaults ms info) ∧
    (∀ ms cs, Document (objectTokens ms) cs →
      (named "success" ms = [] → ∃ e, UploadVerdict.decode cs = .error e) ∧
      ∀ verdict, UploadVerdict.decode cs = .ok verdict → named "error" ms = [] →
        verdict.error = none) ∧
    ∀ ms cs, Document (objectTokens ms) cs →
      (named "success" ms = [] → ∃ e, RollbackVerdict.decode cs = .error e) ∧
      ∀ verdict, RollbackVerdict.decode cs = .ok verdict → named "message" ms = [] →
        verdict.message = none := by
  have hupload : (UploadVerdict.record.fields.map Field.name).Nodup := by decide
  have hrollback : (RollbackVerdict.record.fields.map Field.name).Nodup := by decide
  have uploads := unordered hupload UploadVerdict.faithful
  have rollbacks := unordered hrollback RollbackVerdict.faithful
  refine ⟨unordered DeviceInfo.names_nodup DeviceInfo.faithful, uploads, rollbacks, ?_, ?_, ?_⟩
  · intro ms cs info h hd
    exact DeviceInfo.defaults h hd
  · intro ms cs h
    constructor
    · intro hnamed
      exact uploads.lacking ms cs _ List.mem_cons_self rfl hnamed h
    · intro verdict hd hnamed
      obtain ⟨es, hread, rfl⟩ := of_map_ok hd
      exact text?_absent hupload h hread (List.mem_cons_of_mem _ List.mem_cons_self) hnamed
  · intro ms cs h
    constructor
    · intro hnamed
      exact rollbacks.lacking ms cs _ List.mem_cons_self rfl hnamed h
    · intro verdict hd hnamed
      obtain ⟨es, hread, rfl⟩ := of_map_ok hd
      exact text?_absent hrollback h hread (List.mem_cons_of_mem _ List.mem_cons_self) hnamed

def bare (name : String) : List Piece :=
  name.toList.filterMap fun c =>
    if h : c ≠ '"' ∧ c ≠ '\\' ∧ 0x20 ≤ c.toNat then some (.plain c h.1 h.2.1 h.2.2) else none

def flagMember (name : String) (b : Bool) : Member :=
  ⟨bare name, [.flag b], .flag b⟩

def emptyMember (name : String) : Member :=
  ⟨bare name, enclosed .list [], @IsValue.list [] nofun⟩

lemma document_of_eq {w : List Char} {ts : List Token} (hw : ∀ c ∈ w, isSpace c = true)
    (h : ts.flatMap (fun t => w ++ t.spelling) = cs) : Document ts cs := by
  subst h
  refine ⟨_, [], (List.append_nil _).symm, ?_, nofun⟩
  induction ts with
  | nil => exact .nil
  | cons t ts ih =>
    rw [List.flatMap_cons, List.append_assoc]
    exact .cons hw ih

theorem payloads_unordered_verdict :
    (UploadVerdict.decode " \x7b \"x\" : [ ] , \"success\" : true \x7d".toList).toOption =
      (UploadVerdict.decode "\x7b\"success\":true\x7d".toList).toOption ∧
    (∃ e, UploadVerdict.decode "\x7b\x7d".toList = .error e) ∧
    ∃ e, UploadVerdict.decode "\x7b\"success\":true,\"x\":[],\"success\":true\x7d".toList =
      .error e := by
  have hx : UploadVerdict.record.Foreign (emptyMember "x") := ⟨"x", by decide +kernel, by decide⟩
  have hsuccess : (flagMember "success" true).name? = some "success" := by decide +kernel
  have hplain : Document (objectTokens [flagMember "success" true])
      "\x7b\"success\":true\x7d".toList :=
    document_of_eq (w := []) nofun (by decide +kernel)
  have hspaced : Document (objectTokens [emptyMember "x", flagMember "success" true])
      " \x7b \"x\" : [ ] , \"success\" : true \x7d".toList :=
    document_of_eq (w := [' ']) (by simp [isSpace]) (by decide +kernel)
  have hempty : Document (objectTokens []) "\x7b\x7d".toList :=
    document_of_eq (w := []) nofun (by decide +kernel)
  have htwice : Document
      (objectTokens [flagMember "success" true, emptyMember "x", flagMember "success" true])
      "\x7b\"success\":true,\"x\":[],\"success\":true\x7d".toList :=
    document_of_eq (w := []) nofun (by decide +kernel)
  obtain ⟨-, uploads, -, -, hlacking, -⟩ := payloads_unordered
  refine ⟨?_, ?_, ?_⟩
  · exact uploads.unordered [_] [_] [_, _] _ _ (List.Perm.swap _ _ []) (by simpa using hx) hplain
      hspaced
  · exact (hlacking [] _ hempty).1 rfl
  · exact uploads.repeated [] [_] [] _ _ _ ⟨"success", .flag, false⟩ List.mem_cons_self
      hsuccess hsuccess htwice

end FirmwareUpdate
