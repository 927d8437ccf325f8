import InkWorkspace.Proofs.Include.Graph
import InkWorkspace.Proofs.Include.Load
import Mathlib.Logic.Relation

/- Two walks along include lines, and the chains that they follow. The walk through a graph that knows
   all its targets gives exactly the nodes to which a chain of edges leads (`mem_reachableFrom_iff`).
   The walk over the disk gives exactly the readable paths to which a chain of include lines in
   readable files leads (`mem_load_iff`).

   In both, what is given is closed except for what has been seen before, and nothing has been seen
   when the walk starts. -/
namespace InkWorkspace

namespace IncludeGraph

variable {graph : IncludeGraph}

/-- The graph has an edge from one file to the other. -/
def Leads (graph : IncludeGraph) (source target : Path) : Prop :=
  target ∈ (graph.edgesFrom source).map (·.target)

/-- Every edge ends at a node. -/
def Closed (graph : IncludeGraph) : Prop :=
  ∀ source target, graph.Leads source target → target ∈ graph.nodes

theorem reachFrom_sound (graph : IncludeGraph) (pending seen : List Path) :
    ∀ path ∈ graph.reachFrom pending seen, ∃ start ∈ pending, start ∈ graph.nodes ∧
      Relation.ReflTransGen graph.Leads start path := by
  fun_induction reachFrom graph pending seen with
  | case1 seen => simp
  | case2 seen path rest hs ih
  | case4 seen path rest hs hb ih =>
    intro p hp
    obtain ⟨start, hstart, hchain⟩ := ih p hp
    exact ⟨start, List.mem_cons_of_mem path hstart, hchain⟩
  | case3 seen path rest hs hb ih =>
    intro p hp
    rcases List.mem_cons.mp hp with rfl | hp
    · exact ⟨p, List.mem_cons_self, hb, .refl⟩
    · obtain ⟨start, hstart, hnode, hchain⟩ := ih p hp
      rcases List.mem_append.mp hstart with hstart | hstart
      · exact ⟨path, List.mem_cons_self, hb, hchain.head hstart⟩
      · exact ⟨start, List.mem_cons_of_mem path hstart, hnode, hchain⟩

/-- A node that is pending, or to which an edge leads from a file that the walk gives, has been seen
    before or is given. -/
theorem reachFrom_complete (graph : IncludeGraph) (pending seen : List Path) {path : Path}
    (hnode : path ∈ graph.nodes)
    (hpath : path ∈ pending ∨ ∃ source ∈ graph.reachFrom pending seen, graph.Leads source path) :
    path ∈ seen ∨ path ∈ graph.reachFrom pending seen := by
  fun_induction reachFrom graph pending seen with
  | case1 seen =>
    obtain hpath | ⟨source, hsource, -⟩ := hpath
    · cases hpath
    · cases hsource
  | case2 seen first rest hs ih =>
    obtain hpath | hpath := hpath
    · rcases List.mem_cons.mp hpath with rfl | hpath
      · exact Or.inl hs
      · exact ih (Or.inl hpath)
    · exact ih (Or.inr hpath)
  | case3 seen first rest hs hb ih =>
    by_cases hfirst : path = first
    · exact Or.inr (hfirst ▸ List.mem_cons_self)
    · -- What the first node leads to is pending in what is left of the walk.
      have hnext : path ∈ (graph.edgesFrom first).map (·.target) ++ rest ∨
          ∃ source ∈ graph.reachFrom ((graph.edgesFrom first).map (·.target) ++ rest)
            (first :: seen), graph.Leads source path := by
        obtain hpath | ⟨source, hsource, hleads⟩ := hpath
        · exact Or.inl (List.mem_append_right _ ((List.mem_cons.mp hpath).resolve_left hfirst))
        · rcases List.mem_cons.mp hsource with rfl | hsource
          · exact Or.inl (List.mem_append_left _ hleads)
          · exact Or.inr ⟨source, hsource, hleads⟩
      obtain hseen | hgiven := ih hnext
      · exact Or.inl ((List.mem_cons.mp hseen).resolve_left hfirst)
      · exact Or.inr (List.mem_cons_of_mem first hgiven)
  | case4 seen first rest hs hb ih =>
    obtain hpath | hpath := hpath
    · rcases List.mem_cons.mp hpath with rfl | hpath
      · exact absurd hnode hb
      · exact ih (Or.inl hpath)
    · exact ih (Or.inr hpath)

theorem mem_reachableFrom_iff (hclosed : graph.Closed) {start path : Path} :
    path ∈ graph.reachableFrom start ↔
      start ∈ graph.nodes ∧ Relation.ReflTransGen graph.Leads start path := by
  constructor
  · intro hpath
    obtain ⟨first, hfirst, hnode, hchain⟩ := graph.reachFrom_sound [start] [] path hpath
    cases List.mem_singleton.mp hfirst
    exact ⟨hnode, hchain⟩
  · intro hreach
    obtain ⟨hnode, hchain⟩ := hreach
    have hcomplete {path : Path} (hpath : path ∈ graph.nodes) :=
      graph.reachFrom_complete [start] [] hpath
    induction hchain with
    | refl => exact (hcomplete hnode (Or.inl List.mem_cons_self)).resolve_left List.not_mem_nil
    | tail _ hleads ih =>
      exact (hcomplete (hclosed _ _ hleads) (Or.inr ⟨_, ih, hleads⟩)).resolve_left
        List.not_mem_nil

/-! ## The graph of some files -/

theorem leads_build_iff {files : List InkFile} {root source target : Path} :
    (build files root).Leads source target ↔
      ∃ file ∈ files, file.path = source ∧ target ∈ file.targets root := by
  simp only [Leads, edgesFrom, build, edgesOf, InkFile.targets, List.mem_map, List.mem_filter,
    List.mem_flatMap, decide_eq_true_eq]
  constructor
  · intro hleads
    obtain ⟨edge, ⟨⟨file, hfile, inclusion, hinclusion, hedge⟩, hsource⟩, htarget⟩ := hleads
    cases hedge
    exact ⟨file, hfile, hsource, inclusion, hinclusion, htarget⟩
  · intro hline
    obtain ⟨file, hfile, hsource, inclusion, hinclusion, htarget⟩ := hline
    exact ⟨_, ⟨⟨file, hfile, inclusion, hinclusion, rfl⟩, hsource⟩, htarget⟩

theorem build_closed (files : List InkFile) (root : Path) : (build files root).Closed := by
  intro source target hleads
  obtain ⟨file, hfile, -, htarget⟩ := leads_build_iff.mp hleads
  exact mem_nodes_build.mpr ⟨file, hfile, Or.inr htarget⟩

end IncludeGraph

namespace Include

/-- An include line of the text that the disk holds at a path names the other path. -/
def Leads (disk : Disk) (root source target : Path) : Prop :=
  ∃ text, disk.text? source = some text ∧ Names root text target

/-- It does not matter whether the root is normal. -/
theorem leads_normalize {disk : Disk} {root : Path} (habs : root.absolute = true) :
    Leads disk root.normalize = Leads disk root := by
  funext source target
  simp only [Leads, Names, Path.resolve_normalize habs]

theorem load_onDisk (disk : Disk) (root entry : Path) :
    ∀ file ∈ load disk root entry, file.OnDisk disk :=
  loadFrom_onDisk disk root [root.resolve entry] []

theorem load_complete {disk : Disk} {root entry path : Path} {text : String}
    (htext : disk.text? path = some text)
    (hpath : path = root.resolve entry ∨
      ∃ file ∈ load disk root entry, path ∈ file.targets root) :
    ∃ file ∈ load disk root entry, file.path = path := by
  have hpending : ∀ start ∈ [root.resolve entry], start.normalize = start := by
    intro start hstart
    rw [List.mem_singleton.mp hstart]
    exact Path.normalize_resolve root entry
  exact (loadFrom_complete_of_normal hpending htext
    (hpath.imp_left List.mem_singleton.mpr)).resolve_left List.not_mem_nil

/-- Loading gives the readable paths to which a chain of include lines leads from the entry. -/
theorem mem_load_iff {disk : Disk} {root entry path : Path} :
    path ∈ (load disk root entry).map (·.path) ↔ (disk.text? path).isSome = true ∧
      Relation.ReflTransGen (Leads disk root) (root.resolve entry) path := by
  rw [List.mem_map]
  constructor
  · intro hloaded
    obtain ⟨file, hfile, hpath⟩ := hloaded
    subst hpath
    obtain ⟨text, htext, -⟩ := load_onDisk disk root entry file hfile
    refine ⟨Option.isSome_iff_exists.mpr ⟨text, htext⟩, loadFrom_induction ?_ ?_ file hfile⟩
    · intro start hstart
      rw [List.mem_singleton.mp hstart]
    · intro source hsource hchain target htarget
      obtain ⟨read, hread, heq⟩ := load_onDisk disk root entry source hsource
      rw [heq] at htarget
      exact hchain.tail ⟨read, hread, InkFile.mem_targets_read.mp htarget⟩
  · intro hreach
    obtain ⟨hread, hchain⟩ := hreach
    obtain ⟨text, htext⟩ := Option.isSome_iff_exists.mp hread
    clear hread
    -- Every file on the way names the next one, so it can be read too.
    induction hchain generalizing text with
    | refl => exact load_complete htext (Or.inl rfl)
    | @tail between path _ hleads ih =>
      obtain ⟨found, hfound, hnames⟩ := hleads
      obtain ⟨source, hsource, hpath⟩ := ih found hfound
      subst hpath
      obtain ⟨read, hread, heq⟩ := load_onDisk disk root entry source hsource
      rw [hfound] at hread
      cases hread
      have htarget : path ∈ source.targets root := by
        rw [heq]
        exact InkFile.mem_targets_read.mpr hnames
      exact load_complete htext (Or.inr ⟨source, hsource, htarget⟩)

end Include

end InkWorkspace
