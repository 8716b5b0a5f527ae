import Periscope.Json.Decoder
import Periscope.Text.Path

/-!
# Where a container's accounting files are

The first hierarchy has a tree for each controller and a directory for each container in
it. The second has one tree, with a scope for each container.
-/

namespace Periscope

/-- The hierarchy that the host keeps its accounting files in. -/
inductive CgroupLayout where
  /-- A tree for each controller. -/
  | v1
  /-- One tree for all controllers. -/
  | v2
  deriving Repr, DecidableEq, Inhabited

namespace CgroupLayout

/-- The name of a layout. -/
def name : CgroupLayout → String
  | .v1 => "v1"
  | .v2 => "v2"

/-- The layout with exactly this name. -/
def ofName? (name : String) : Option CgroupLayout := [v1, v2].find? (·.name = name)

/-- A layout as JSON. -/
def toJson (layout : CgroupLayout) : Json := .text layout.name

/-- A layout from JSON. -/
def decoder : Json.Decoder CgroupLayout := Json.Decoder.enumeration ofName?

end CgroupLayout

/-- The files that hold a container's processor time. -/
structure CpuFiles where
  /-- The file of the counters of used time. -/
  usage : String
  /-- The file of user and system time. -/
  stat : String
  /-- The form of both files. -/
  layout : CgroupLayout
  deriving Repr, DecidableEq

/-- The files that hold a container's memory figures. -/
structure MemoryFiles where
  /-- The file of the kinds of memory. -/
  stat : String
  /-- The file of the limit. -/
  limit : String
  /-- The file of the size in use. -/
  usage : String
  /-- The form of the files. -/
  layout : CgroupLayout
  deriving Repr, DecidableEq

/-- The accounting files of a container. -/
structure ContainerFiles where
  /-- The files of processor time. -/
  cpu : CpuFiles
  /-- The files of memory figures. -/
  memory : MemoryFiles
  deriving Repr, DecidableEq

/-- Finds the files of a container below the root of the hierarchy. -/
def ContainerFiles.resolve (root : String) (layout : CgroupLayout) (id : String) : ContainerFiles :=
  match layout with
  | .v1 =>
    let cpu := joinPaths root ["cpuacct", "docker", id]
    let memory := joinPaths root ["memory", "docker", id]
    { cpu := ⟨joinPath cpu "cpuacct.usage_percpu", joinPath cpu "cpuacct.stat", .v1⟩
      memory :=
        ⟨joinPath memory "memory.stat", joinPath memory "memory.limit_in_bytes",
          joinPath memory "memory.usage_in_bytes", .v1⟩ }
  | .v2 =>
    let scope := joinPaths root ["system.slice", "docker-" ++ id ++ ".scope"]
    { cpu := ⟨joinPath scope "cpu.stat", joinPath scope "cpu.stat", .v2⟩
      memory :=
        ⟨joinPath scope "memory.stat", joinPath scope "memory.max",
          joinPath scope "memory.current", .v2⟩ }

end Periscope
