import FirmwareUpdate.Payload
import FirmwareUpdate.Proofs.Json.Written

/-! What a device runs, written and decoded again. -/

namespace FirmwareUpdate.DeviceInfo

open Json

def written (info : DeviceInfo) : List Written :=
  [⟨⟨"version", .text, false⟩, .text info.version, _, text_read _⟩,
    ⟨⟨"build_date", .text, false⟩, .text info.buildDate, _, text_read _⟩,
    ⟨⟨"idf_version", .text, false⟩, .text info.idfVersion, _, text_read _⟩,
    ⟨⟨"can_rollback", .flag, true⟩, .flag info.canRollback, _, flag_read _⟩,
    ⟨⟨"partition_label", .text, true⟩, .text info.partitionLabel, _, text_read _⟩,
    ⟨⟨"app_size", .size, true⟩, .size info.appSize, _, size_read _⟩]

lemma encode_written (info : DeviceInfo) :
    info.encode = writeObject (info.written.map Written.member) := rfl

lemma fields_written (info : DeviceInfo) : info.written.map Written.field = record.fields := rfl

lemma ofMembers_written (info : DeviceInfo) :
    ofMembers (info.written.map Written.entry).reverse = info := rfl

lemma names_nodup : (record.fields.map Field.name).Nodup := by
  decide

theorem decode_encode (info : DeviceInfo) : decode info.encode = .ok info := by
  have hf : ∀ w ∈ info.written, record.field? w.field.name = some w.field := by
    intro w hw
    apply Record.field?_name names_nodup
    rw [← fields_written info]
    exact List.mem_map_of_mem hw
  have hnew : (info.written.map fun w => w.field.name).Nodup := names_nodup
  have hread : record.read info.encode = .ok (info.written.map Written.entry).reverse := by
    rw [encode_written]
    exact Record.read_written hf hnew rfl
  rw [decode, hread]
  exact congrArg Except.ok (ofMembers_written info)

example : (⟨some "1\"\x01", none, none, true, none, some 70⟩ : DeviceInfo).encode =
    ("\x7b\"version\":\"1\\\"\\u0001\",\"build_date\":null,\"idf_version\":null," ++
      "\"can_rollback\":true,\"partition_label\":null,\"app_size\":70\x7d").toList := by
  decide +kernel

end FirmwareUpdate.DeviceInfo
