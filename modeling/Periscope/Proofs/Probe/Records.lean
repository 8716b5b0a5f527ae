import Periscope.Probe.OsRelease
import Periscope.Probe.ProcessTable
import Periscope.Proofs.Json.Integer

/-!
# Values of probes are read back

The values that the probes reply with are read back member by member: names that may be
missing, texts of any characters and numbers of processes.
-/

namespace Periscope

open Json

namespace OsInfo

/-- An identity is read back from a reply. -/
theorem readsBack (depth : Nat) (os : OsInfo) :
    ReadsBack (depth + 1) decoder os.replyJson os := by
  have hname (name : Option String) : ReadsBack depth nameDecoder (.ofText? name) name :=
    ofText?_readsBack depth name
  -- Each member finds its field by name, and no field is filled twice.
  have hfills : Fills fields depth {}
      [("hostname", .text os.hostname), ("id", .ofText? os.id),
        ("version_id", .ofText? os.versionId), ("pretty_name", .ofText? os.prettyName)]
      ⟨some os.hostname, some os.id, some os.versionId, some os.prettyName⟩ :=
    .readsBack rfl rfl (text_readsBack depth os.hostname)
      (.readsBack rfl rfl (hname os.id)
        (.readsBack rfl rfl (hname os.versionId)
          (.readsBack rfl rfl (hname os.prettyName) (.done _))))
  have hdraft : ofDraft ⟨some os.hostname, some os.id, some os.versionId, some os.prettyName⟩ =
      some os := rfl
  exact fun rest _ => record_reads hfills hdraft rest

end OsInfo

namespace ProcessRecord

/-- A process is read back from a reply. -/
theorem readsBack (depth : Nat) (p : ProcessRecord) :
    ReadsBack (depth + 1) decoder p.replyJson p := by
  have hfills : Fills fields depth {}
      [("pid", .integer p.pid.toInt), ("ppid", .integer p.ppid.toInt),
        ("command", .text p.command), ("state", .text p.state)]
      ⟨some p.pid, some p.ppid, some p.command, some p.state⟩ :=
    .readsBack rfl rfl (int32_readsBack depth p.pid)
      (.readsBack rfl rfl (int32_readsBack depth p.ppid)
        (.readsBack rfl rfl (text_readsBack depth p.command)
          (.readsBack rfl rfl (text_readsBack depth p.state) (.done _))))
  have hdraft : ofDraft ⟨some p.pid, some p.ppid, some p.command, some p.state⟩ = some p := rfl
  exact fun rest _ => record_reads hfills hdraft rest

/-- Processes are read back from a reply. -/
theorem list_readsBack (depth : Nat) (processes : List ProcessRecord) :
    ReadsBack (depth + 2) (Decoder.list decoder) (.array (processes.map replyJson)) processes := by
  have hitems : processes.mapM (fun p => some p.replyJson) = some (processes.map replyJson) :=
    List.mapM_pure
  refine Json.list_readsBack hitems fun p _ item hitem => ?_
  obtain rfl := Option.some.inj hitem
  exact readsBack depth p

end ProcessRecord

end Periscope
