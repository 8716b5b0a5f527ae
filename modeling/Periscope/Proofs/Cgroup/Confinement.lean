import Mathlib.Data.List.Forall2
import Periscope.Cgroup.Layout
import Periscope.Proofs.Text.Path
import Periscope.Target

/-!
# Which ids keep to a directory of their own

The files of a container are meant to stand below the root of the hierarchy, in a directory whose
name is made from the container's id. The first layout takes the id for a path, so that an id may
lead anywhere; the second one puts it between two fixed texts, where only a slash does harm. Files
stay in their places, and those of different containers apart, as long as each id makes one name.
-/

namespace Periscope

/-- Where a file of a container stands: the directories that all containers have in common, and the
name of the file in the container's own directory. -/
structure FilePlace where
  /-- The common directories below the root. -/
  directories : List String
  /-- The name of the file. -/
  file : String

namespace FilePlace

/-- The path of a file in a directory of its own. -/
def path (place : FilePlace) (root own : String) : String :=
  joinPaths root (place.directories ++ [own, place.file])

/-- A path leads from the root through the common directories and one more to the file. -/
structure Leads (place : FilePlace) (root : String) (own : List Char) (path : String) : Prop where
  /-- It starts where the root starts. -/
  start : isAbsolute path.toList = isAbsolute root.toList
  /-- Its parts are those of the root, the common directories, one name and the file. -/
  parts : pathParts path.toList =
    pathParts root.toList ++ place.directories.map String.toList ++ [own, place.file.toList]

/-- The fixed part of a place has names only, and there is a common directory. -/
structure Sound (place : FilePlace) : Prop where
  /-- The common directories are names. -/
  directories : ∀ name ∈ place.directories, IsName name.toList
  /-- There is one. -/
  nonempty : place.directories ≠ []
  /-- The file is a name. -/
  file : IsName place.file.toList

section Paths

variable {place : FilePlace} {root own : String}

private theorem toList_path :
    (place.path root own).toList =
      joinChars (joinChars (joinPaths root place.directories).toList own.toList)
        place.file.toList := by
  have hpath : place.path root own =
      joinPath (joinPath (joinPaths root place.directories) own) place.file := by
    rw [path, joinPaths, List.foldl_append]
    rfl
  rw [hpath, toList_joinPath, toList_joinPath]

/-- A relative directory stands with all its names between the common ones and the file. -/
theorem Sound.pathParts_path (h : place.Sound) (hrelative : isAbsolute own.toList = false) :
    pathParts (place.path root own).toList =
      pathParts root.toList ++ place.directories.map String.toList ++ dotless own.toList ++
        [place.file.toList] := by
  have hcommon := pathParts_joinPaths h.directories root
  have hnames : pathNames (joinPaths root place.directories).toList ≠ [] := by
    apply pathNames_ne_nil
    simp [hcommon, h.nonempty]
  rw [toList_path, h.file.pathParts_joinChars, pathParts_joinChars hrelative (.inl hnames), hcommon]

theorem Sound.isAbsolute_path (h : place.Sound) (hrelative : isAbsolute own.toList = false) :
    isAbsolute (place.path root own).toList = isAbsolute root.toList := by
  rw [toList_path, isAbsolute_joinChars h.file.relative, isAbsolute_joinChars hrelative,
    isAbsolute_joinPaths h.directories]

/-- An absolute directory takes the place of the root and the common directories. -/
theorem Sound.pathParts_path_absolute (h : place.Sound) (habsolute : isAbsolute own.toList = true) :
    pathParts (place.path root own).toList = pathParts own.toList ++ [place.file.toList] := by
  rw [toList_path, joinChars_absolute _ _ habsolute, h.file.pathParts_joinChars]

/-- An absolute directory leads to a place only if it names the common directories itself. -/
theorem Sound.pathParts_of_leads (h : place.Sound) (habsolute : isAbsolute own.toList = true)
    {name : List Char} (hleads : place.Leads root name (place.path root own)) :
    pathParts own.toList =
      pathParts root.toList ++ (place.directories.map String.toList ++ [name]) := by
  have hparts := hleads.parts
  rw [h.pathParts_path_absolute habsolute] at hparts
  have hend : pathParts own.toList ++ [place.file.toList] =
      pathParts root.toList ++ (place.directories.map String.toList ++ [name]) ++
        [place.file.toList] := by
    rw [hparts]
    simp
  exact List.append_cancel_right hend

/-- A relative directory leads to its file exactly if it has one name. -/
theorem Sound.leads_iff (h : place.Sound) (hrelative : isAbsolute own.toList = false)
    {name : List Char} :
    place.Leads root name (place.path root own) ↔ dotless own.toList = [name] := by
  constructor
  · intro hleads
    have hparts := hleads.parts
    rw [h.pathParts_path hrelative, List.append_assoc] at hparts
    have hend : dotless own.toList ++ [place.file.toList] = [name] ++ [place.file.toList] :=
      List.append_cancel_left hparts
    exact List.append_cancel_right hend
  · intro hname
    refine ⟨h.isAbsolute_path hrelative, ?_⟩
    rw [h.pathParts_path hrelative, hname, List.append_assoc]
    rfl

end Paths

end FilePlace

namespace CgroupLayout

/-- The places of a container's files. -/
def places : CgroupLayout → List FilePlace
  | .v1 =>
    [⟨["cpuacct", "docker"], "cpuacct.usage_percpu"⟩, ⟨["cpuacct", "docker"], "cpuacct.stat"⟩,
      ⟨["memory", "docker"], "memory.stat"⟩, ⟨["memory", "docker"], "memory.limit_in_bytes"⟩,
      ⟨["memory", "docker"], "memory.usage_in_bytes"⟩]
  | .v2 =>
    [⟨["system.slice"], "cpu.stat"⟩, ⟨["system.slice"], "cpu.stat"⟩,
      ⟨["system.slice"], "memory.stat"⟩, ⟨["system.slice"], "memory.max"⟩,
      ⟨["system.slice"], "memory.current"⟩]

/-- What an id makes of a container's own directory. -/
def directory : CgroupLayout → String → String
  | .v1, id => id
  | .v2, id => "docker-" ++ id ++ ".scope"

/-- An id makes one name of its container's directory, which leads down. -/
structure Names (layout : CgroupLayout) (id : String) (own : List Char) : Prop where
  /-- It does not start at the root directory. -/
  relative : isAbsolute (layout.directory id).toList = false
  /-- There is one name, but for dots that stay in place. -/
  single : dotless (layout.directory id).toList = [own]
  /-- The name does not lead up. -/
  down : own ≠ ['.', '.']

end CgroupLayout

namespace ContainerFiles

open CgroupLayout

/-- The paths of all files. -/
def paths (files : ContainerFiles) : List String :=
  [files.cpu.usage, files.cpu.stat, files.memory.stat, files.memory.limit, files.memory.usage]

/-- Every file stands at its place below the root, in a directory of one name. -/
def Confined (root : String) (layout : CgroupLayout) (files : ContainerFiles) : Prop :=
  List.Forall₂ (fun place path => ∃ own, own ≠ ['.', '.'] ∧ FilePlace.Leads place root own path)
    layout.places files.paths

/-- Some file of the one container is some file of the other. -/
def Share (files others : ContainerFiles) : Prop :=
  ∃ path ∈ files.paths, ∃ other ∈ others.paths, samePath path other = true

theorem paths_resolve (root : String) (layout : CgroupLayout) (id : String) :
    (resolve root layout id).paths = layout.places.map (·.path root (layout.directory id)) := by
  cases layout <;> rfl

private theorem exists_mem_places (layout : CgroupLayout) : ∃ place, place ∈ layout.places :=
  List.exists_mem_of_ne_nil _ (by cases layout <;> simp [places])

private theorem sound_of_mem_places {layout : CgroupLayout} {place : FilePlace}
    (h : place ∈ layout.places) : place.Sound := by
  have hsound : ∀ layout : CgroupLayout, ∀ place ∈ layout.places,
      (∀ name ∈ place.directories, IsName name.toList) ∧ place.directories ≠ [] ∧
        IsName place.file.toList := by
    intro layout
    cases layout <;> decide
  obtain ⟨hdirectories, hnonempty, hfile⟩ := hsound layout place h
  exact ⟨hdirectories, hnonempty, hfile⟩

/-- An absolute id cannot name the directories of both controllers. -/
private theorem not_confined_of_absolute {root : String} {layout : CgroupLayout} {id : String}
    (habsolute : isAbsolute (layout.directory id).toList = true) :
    ¬ (resolve root layout id).Confined root layout := by
  intro h
  rw [Confined, paths_resolve, List.forall₂_map_right_iff, List.forall₂_same] at h
  cases layout with
  | v1 =>
    have hcpu : (⟨["cpuacct", "docker"], "cpuacct.stat"⟩ : FilePlace) ∈ CgroupLayout.v1.places := by
      simp [places]
    have hmemory : (⟨["memory", "docker"], "memory.stat"⟩ : FilePlace) ∈
        CgroupLayout.v1.places := by
      simp [places]
    obtain ⟨cpuOwn, _, hcpuLeads⟩ := h _ hcpu
    obtain ⟨memoryOwn, _, hmemoryLeads⟩ := h _ hmemory
    have hcpuParts := (sound_of_mem_places hcpu).pathParts_of_leads habsolute hcpuLeads
    have hmemoryParts := (sound_of_mem_places hmemory).pathParts_of_leads habsolute hmemoryLeads
    rw [hcpuParts] at hmemoryParts
    have hsame := List.append_cancel_left hmemoryParts
    exact absurd (List.cons.inj hsame).1 (by decide)
  | v2 =>
    rw [directory] at habsolute
    simp [isAbsolute] at habsolute

/-- The files are at their places exactly if the id makes one name. -/
theorem confined_iff (root : String) (layout : CgroupLayout) (id : String) :
    (resolve root layout id).Confined root layout ↔ ∃ own, layout.Names id own := by
  cases hrelative : isAbsolute (layout.directory id).toList with
  | true =>
    refine iff_of_false (not_confined_of_absolute hrelative) ?_
    rintro ⟨own, hnames⟩
    exact Bool.false_ne_true (hnames.relative.symm.trans hrelative)
  | false =>
    rw [Confined, paths_resolve, List.forall₂_map_right_iff, List.forall₂_same]
    constructor
    · intro h
      obtain ⟨place, hplace⟩ := exists_mem_places layout
      obtain ⟨own, hdown, hleads⟩ := h place hplace
      exact ⟨own, hrelative, ((sound_of_mem_places hplace).leads_iff hrelative).mp hleads, hdown⟩
    · rintro ⟨own, hnames⟩ place hplace
      exact ⟨own, hnames.down,
        ((sound_of_mem_places hplace).leads_iff hrelative).mpr hnames.single⟩

private theorem leads_of_names {layout : CgroupLayout} {id : String} {own : List Char}
    (h : layout.Names id own) (root : String) {place : FilePlace} (hplace : place ∈ layout.places) :
    place.Leads root own (place.path root (layout.directory id)) :=
  ((sound_of_mem_places hplace).leads_iff h.relative).mpr h.single

/-- Containers whose ids make one name share files exactly if it is the same name. -/
theorem share_iff {root : String} {layout : CgroupLayout} {id id' : String}
    {own own' : List Char} (h : layout.Names id own) (h' : layout.Names id' own') :
    (resolve root layout id).Share (resolve root layout id') ↔ own = own' := by
  simp only [Share, paths_resolve, samePath_iff, List.mem_map, exists_exists_and_eq_and]
  constructor
  · rintro ⟨place, hplace, place', hplace', _, hparts⟩
    -- Both paths end with the own name and that of the file.
    rw [(leads_of_names h root hplace).parts, (leads_of_names h' root hplace').parts] at hparts
    have hends := List.append_inj_right' hparts rfl
    exact (List.cons.inj hends).1
  · rintro rfl
    obtain ⟨place, hplace⟩ := exists_mem_places layout
    have hleads := leads_of_names h root hplace
    have hleads' := leads_of_names h' root hplace
    exact ⟨place, hplace, place, hplace, hleads.start.trans hleads'.start.symm,
      hleads.parts.trans hleads'.parts.symm⟩

end ContainerFiles

namespace CgroupLayout

private theorem toList_directory_v2 (id : String) :
    (v2.directory id).toList = "docker-".toList ++ id.toList ++ ".scope".toList := by
  rw [directory, String.toList_append, String.toList_append]

/-- Without a slash in the id the directory of the second layout is one name. -/
private theorem names_v2 {id : String} (hslash : '/' ∉ id.toList) :
    v2.Names id (v2.directory id).toList := by
  have hname : IsName (v2.directory id).toList := by
    rw [toList_directory_v2]
    refine ⟨by simp, ?_, by simp⟩
    simp only [List.mem_append, hslash]
    decide
  refine ⟨hname.relative, hname.dotless_eq, ?_⟩
  rw [toList_directory_v2]
  simp

/-- An id that is a name by itself makes one name. -/
theorem names_of_isName (layout : CgroupLayout) {id : String} (hid : IsName id.toList)
    (hup : id ≠ "..") : layout.Names id (layout.directory id).toList := by
  cases layout with
  | v1 => exact ⟨hid.relative, hid.dotless_eq, fun h => hup (String.toList_inj.mp h)⟩
  | v2 => exact names_v2 hid.2.1

theorem directory_injective (layout : CgroupLayout) : Function.Injective layout.directory := by
  cases layout with
  | v1 => exact Function.injective_id
  | v2 =>
    intro id id' h
    have hlist := congrArg String.toList h
    rw [toList_directory_v2, toList_directory_v2, List.append_assoc, List.append_assoc] at hlist
    exact String.toList_inj.mp (List.append_cancel_right (List.append_cancel_left hlist))

/-- A slash in the id divides the directory of the second layout into several names. -/
private theorem not_mem_of_names_v2 {id : String} {own : List Char} (h : v2.Names id own) :
    '/' ∉ id.toList := by
  intro hmem
  obtain ⟨front, back, hid, hfront⟩ := List.eq_append_cons_of_mem hmem
  have hsplit : (v2.directory id).toList =
      ("docker-".toList ++ front) ++ '/' :: (back ++ ".scope".toList) := by
    rw [toList_directory_v2, hid]
    simp
  -- What stands in front of the first slash is a name, and so is what ends the path.
  have hfirst : IsName ("docker-".toList ++ front) := by
    refine ⟨by simp, ?_, by simp⟩
    simp only [List.mem_append, hfront]
    decide
  have hscope : IsName ".scope".toList := by decide
  obtain ⟨names, before, hlast⟩ := hscope.exists_dotless_append back
  have hsingle := h.single
  rw [hsplit, dotless_append_slash, hfirst.dotless_eq, hlast] at hsingle
  have hlength := congrArg List.length hsingle
  simp at hlength

/-- In the second layout an id makes one name exactly if it has no slash. -/
theorem names_v2_iff {id : String} {own : List Char} :
    v2.Names id own ↔ '/' ∉ id.toList ∧ (v2.directory id).toList = own := by
  refine ⟨fun hnames => ?_, fun ⟨hslash, hown⟩ => hown ▸ names_v2 hslash⟩
  have hslash := not_mem_of_names_v2 hnames
  have hsingle := (names_v2 hslash).single
  rw [hnames.single] at hsingle
  exact ⟨hslash, (List.cons.inj hsingle).1.symm⟩

end CgroupLayout

open ContainerFiles

/-- **Containers keep their files apart as long as each id makes one name.** Every file of a
container stands below the root, in the directories of its layout and one more, exactly if the id
makes one name: a relative path of one name that does not lead up in the first layout, and any id
without a slash in the second. Two such containers share a file exactly if their ids make the same
name. So two different ids that are names by themselves never do, in neither layout. -/
theorem container_files_kept_apart (root : String) (layout : CgroupLayout) :
    (∀ id, (resolve root layout id).Confined root layout ↔ ∃ own, layout.Names id own) ∧
      (∀ id own, CgroupLayout.v2.Names id own ↔
        '/' ∉ id.toList ∧ (CgroupLayout.v2.directory id).toList = own) ∧
      (∀ id id' own own', layout.Names id own → layout.Names id' own' →
        ((resolve root layout id).Share (resolve root layout id') ↔ own = own')) ∧
      ∀ id, IsName id.toList → id ≠ ".." →
        (resolve root layout id).Confined root layout ∧
          ∀ id', IsName id'.toList → id' ≠ ".." → id ≠ id' →
            ¬ (resolve root layout id).Share (resolve root layout id') := by
  refine ⟨confined_iff root layout, fun _ _ => CgroupLayout.names_v2_iff,
    fun _ _ _ _ h h' => share_iff h h', fun id hid hup => ?_⟩
  have hnames := layout.names_of_isName hid hup
  refine ⟨(confined_iff root layout id).mpr ⟨_, hnames⟩, fun id' hid' hup' hne hshare => ?_⟩
  have hsame := (share_iff hnames (layout.names_of_isName hid' hup')).mp hshare
  exact hne (layout.directory_injective (String.toList_inj.mp hsame))

/-- Ids are accepted that lead away from the root, and different ones that lead to the same files. -/
theorem container_files_astray :
    Target.parse "/etc:1" = .ok ⟨"/etc", 1⟩ ∧
      (resolve "cg" .v1 "/etc").paths =
        ["/etc/cpuacct.usage_percpu", "/etc/cpuacct.stat", "/etc/memory.stat",
          "/etc/memory.limit_in_bytes", "/etc/memory.usage_in_bytes"] ∧
      ¬ (resolve "cg" .v1 "/etc").Confined "cg" .v1 ∧
      Target.parse "a:1" = .ok ⟨"a", 1⟩ ∧ Target.parse "a/:1" = .ok ⟨"a/", 1⟩ ∧
      resolve "cg" .v1 "a" = resolve "cg" .v1 "a/" := by
  refine ⟨by rfl, by decide, ?_, by rfl, by rfl, by decide⟩
  exact not_confined_of_absolute (by decide)

end Periscope
