import InkWorkspace.Proofs.Include.Reach
import InkWorkspace.Proofs.Story.Closure

/- Two answers to what a file brings in. Loading walks over the disk and reads what it finds; the
   include graph of an index walks over what has been read before, with nodes for files that are
   missing. From an indexed file both follow the same chains: all readable files on the way are indexed
   (`Indexed.chain`), and from one that cannot be read nothing leads on. So what is loaded is what can
   be reached, as far as it can be read (`loaded_iff_reachable`). -/
namespace InkWorkspace.Story

section Chains

variable {disk : Disk} {settings : Settings} {root : Path}

/-! ## Indexed files -/

theorem inkPaths_absolute {folder path : Path} (habs : folder.absolute = true)
    (h : path ∈ Include.inkPaths disk folder) : path.absolute = true := by
  unfold Include.inkPaths at h
  split at h
  · cases h
  · obtain ⟨hpath, -⟩ := List.mem_filter.mp h
    obtain ⟨rest, -, heq⟩ := List.mem_map.mp hpath
    rw [← heq]
    exact Path.resolve_absolute habs _

theorem Indexed.askable (habs : root.absolute = true) {path : Path}
    (h : Indexed disk settings root path) : Include.Askable path := by
  cases h with
  | scanned hpath => exact ⟨inkPaths_absolute habs hpath, inkPaths_normal hpath⟩
  | main hpath => exact mainPath_askable habs hpath
  | included _ _ hnames =>
    obtain ⟨line, -, raw, -, heq⟩ := hnames
    rw [heq]
    exact ⟨Path.resolve_absolute habs _, Path.normalize_resolve root _⟩

theorem find?_build_iff (habs : root.absolute = true) {path : Path} {file : InkFile} :
    (build disk settings root).files.find? path = some file ↔
      Indexed disk settings root.normalize path ∧ file.path = path ∧ file.OnDisk disk :=
  find?_complete_iff ((Path.normalize_absolute root).trans habs) (List.Perm.refl _)

theorem Indexed.stored (habs : root.absolute = true) {path : Path}
    (h : Indexed disk settings root.normalize path) :
    ∃ file, (build disk settings root).files.find? path = some file :=
  complete_covers ((Path.normalize_absolute root).trans habs) (List.Perm.refl _) h

theorem mem_keys_build_iff (habs : root.absolute = true) {path : Path} :
    path ∈ (build disk settings root).files.keys ↔ Indexed disk settings root.normalize path := by
  rw [PathMap.mem_keys_iff, PathMap.contains_iff]
  constructor
  · intro hstored
    obtain ⟨file, hfile⟩ := hstored
    exact ((find?_build_iff habs).mp hfile).1
  · exact fun hindexed => hindexed.stored habs

/-! ## Chains -/

theorem WellFormed.leads_iff {story : Story} (h : story.WellFormed) {source target : Path} :
    story.graph.Leads source target ↔ story.IncludesFile source target := by
  rw [h.graph, IncludeGraph.leads_build_iff]
  constructor
  · intro hleads
    obtain ⟨file, hfile, hsource, htarget⟩ := hleads
    rw [h.files.mem_values_iff, hsource] at hfile
    exact ⟨file, hfile, htarget⟩
  · intro hincludes
    obtain ⟨file, hfile, htarget⟩ := hincludes
    have hsource := (h.files.sound hfile).1
    refine ⟨file, ?_, hsource, htarget⟩
    rw [h.files.mem_values_iff, hsource]
    exact hfile

/-- The graph of a built index has the include lines of indexed files. -/
theorem build_leads_iff (habs : root.absolute = true) {source target : Path} :
    (build disk settings root).graph.Leads source target ↔
      Indexed disk settings root.normalize source ∧
        Include.Leads disk root.normalize source target := by
  rw [(build_wellFormed disk settings root).leads_iff]
  constructor
  · intro hincludes
    obtain ⟨file, hfile, htarget⟩ := hincludes
    obtain ⟨hindexed, hsource, text, htext, heq⟩ := (find?_build_iff habs).mp hfile
    rw [hsource] at htext
    rw [heq] at htarget
    exact ⟨hindexed, text, htext, InkFile.mem_targets_read.mp htarget⟩
  · intro hline
    obtain ⟨hindexed, text, htext, hnames⟩ := hline
    have hfile : (build disk settings root).files.find? source = some (InkFile.read source text) :=
      (find?_build_iff habs).mpr ⟨hindexed, rfl, InkFile.onDisk_read htext⟩
    exact ⟨_, hfile, InkFile.mem_targets_read.mpr hnames⟩

/-- From an indexed file, every chain of include lines on disk is a chain in the graph. -/
theorem Indexed.chain (habs : root.absolute = true) {start path : Path}
    (hstart : Indexed disk settings root.normalize start)
    (h : Relation.ReflTransGen (Include.Leads disk root.normalize) start path) :
    Relation.ReflTransGen (build disk settings root).graph.Leads start path := by
  -- All readable files on the way are indexed, and the others end the chain.
  have hindexed : Relation.ReflTransGen (build disk settings root).graph.Leads start path ∧
      ∀ text, disk.text? path = some text → Indexed disk settings root.normalize path := by
    induction h with
    | refl => exact ⟨.refl, fun _ _ => hstart⟩
    | tail _ hleads ih =>
      obtain ⟨hchain, hsource⟩ := ih
      obtain ⟨text, htext, hnames⟩ := hleads
      have hedge := (build_leads_iff habs).mpr ⟨hsource text htext, text, htext, hnames⟩
      exact ⟨hchain.tail hedge, fun found hfound =>
        .included (hsource text htext) htext hnames hfound⟩
  exact hindexed.1

/-- A chain in the graph is one on disk, and the other way round if it starts at an indexed file. -/
theorem chain_iff (habs : root.absolute = true) {start path : Path}
    (hstart : Indexed disk settings root.normalize start) :
    Relation.ReflTransGen (build disk settings root).graph.Leads start path ↔
      Relation.ReflTransGen (Include.Leads disk root.normalize) start path := by
  have hle : (build disk settings root).graph.Leads ≤ Include.Leads disk root.normalize :=
    fun _ _ hedge => ((build_leads_iff habs).mp hedge).2
  exact ⟨Relation.ReflTransGen.mono hle start path, hstart.chain habs⟩

/-- From an indexed file, the graph reaches the files to which a chain of include lines leads. -/
theorem mem_reachable_iff (habs : root.absolute = true) {start path : Path}
    (hstart : Indexed disk settings root.normalize start) :
    path ∈ (build disk settings root).graph.reachableFrom start ↔
      Relation.ReflTransGen (Include.Leads disk root.normalize) start path := by
  have hgraph := (build_wellFormed disk settings root).graph
  have hclosed : (build disk settings root).graph.Closed := by
    rw [hgraph]
    exact IncludeGraph.build_closed _ _
  have hnode : start ∈ (build disk settings root).graph.nodes := by
    obtain ⟨file, hfile⟩ := hstart.stored habs
    obtain ⟨-, hpath, -⟩ := (find?_build_iff habs).mp hfile
    rw [hgraph, IncludeGraph.mem_nodes_build]
    refine ⟨file, ?_, Or.inl hpath.symm⟩
    rw [(build_wellFormed disk settings root).files.mem_values_iff, hpath]
    exact hfile
  rw [IncludeGraph.mem_reachableFrom_iff hclosed, chain_iff habs hstart]
  exact and_iff_right hnode

end Chains

/-- From every indexed file, loading gives exactly the readable files that can be reached from it in
    the include graph. -/
theorem loaded_iff_reachable (disk : Disk) (settings : Settings) (root : Path)
    (habs : root.absolute = true) (path : Path)
    (hpath : path ∈ (build disk settings root).files.keys) (other : Path) :
    other ∈ (Include.load disk root path).map (·.path) ↔
      other ∈ (build disk settings root).graph.reachableFrom path ∧
        (disk.text? other).isSome = true := by
  have hroot : root.normalize.absolute = true := (Path.normalize_absolute root).trans habs
  have hindexed := (mem_keys_build_iff habs).mp hpath
  obtain ⟨habsolute, hnormal⟩ := hindexed.askable hroot
  rw [Include.mem_load_iff, Path.resolve_eq_self root habsolute hnormal,
    mem_reachable_iff habs hindexed, Include.leads_normalize habs]
  exact and_comm

namespace Tangled

/-- A file that includes a missing one, and one above the root, which includes it in turn. -/
def disk : Disk :=
  .ofTexts [("/p/a.ink", "INCLUDE ../b.ink\nINCLUDE gone.ink\n"), ("/b.ink", "INCLUDE a.ink\n")]

/-- The folder of the file, on a way through another one. -/
def root : Path := .ofString "/q/../p"

def a : Path := .ofString "/p/a.ink"

def b : Path := .ofString "/b.ink"

def gone : Path := .ofString "/p/gone.ink"

/-- The file above the root is loaded. The missing one is only reached. -/
theorem loaded_iff_reachable_above_root :
    root.absolute = true ∧ a ∈ (build disk {} root).files.keys ∧
      b ∈ (Include.load disk root a).map (·.path) ∧
      gone ∈ (build disk {} root).graph.reachableFrom a ∧
      gone ∉ (Include.load disk root a).map (·.path) := by
  have htext : disk.text? a = some "INCLUDE ../b.ink\nINCLUDE gone.ink\n" := by decide +kernel
  have hindexed : Indexed disk {} root.normalize a := .scanned (by decide +kernel) htext
  have hkeys : a ∈ (build disk {} root).files.keys := (mem_keys_build_iff rfl).mpr hindexed
  have hnames : Include.Names root.normalize "INCLUDE ../b.ink\nINCLUDE gone.ink\n" b ∧
      Include.Names root.normalize "INCLUDE ../b.ink\nINCLUDE gone.ink\n" gone := by
    refine ⟨⟨"INCLUDE ../b.ink".toList, ?_, "../b.ink", ?_, ?_⟩,
      ⟨"INCLUDE gone.ink".toList, ?_, "gone.ink", ?_, ?_⟩⟩
    all_goals decide +kernel
  have hreached {path : Path}
      (h : Include.Names root.normalize "INCLUDE ../b.ink\nINCLUDE gone.ink\n" path) :
      path ∈ (build disk {} root).graph.reachableFrom a :=
    (mem_reachable_iff rfl hindexed).mpr (.single ⟨_, htext, h⟩)
  have hloaded := loaded_iff_reachable disk {} root rfl a hkeys
  refine ⟨rfl, hkeys, ?_, hreached hnames.2, ?_⟩
  · exact (hloaded b).mpr ⟨hreached hnames.1, by decide +kernel⟩
  · intro hgone
    have hread := ((hloaded gone).mp hgone).2
    revert hread
    decide +kernel

end Tangled

end InkWorkspace.Story
