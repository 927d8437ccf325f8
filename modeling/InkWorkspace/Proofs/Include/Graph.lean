import InkWorkspace.Include.Graph
import InkWorkspace.Proofs.Source

/- The include graph of some files. As a set of nodes and a multiset of edges it does not depend on
   the order in which the files are taken up (`same_of_perm`), and of each file it keeps only the path
   and the include lines (`build_congr`). If no two files have the same path, what the graph says a
   file includes is what its include lines name, in their order (`includesOf_build`). -/
namespace InkWorkspace.IncludeGraph

/-- The same nodes and the same edges, each as often, in any order. -/
structure Same (a b : IncludeGraph) : Prop where
  nodes : a.nodes.Perm b.nodes
  edges : a.edges.Perm b.edges

/-! ## Nodes -/

theorem mem_addNode {nodes : List Path} {path p : Path} :
    p ∈ addNode nodes path ↔ p ∈ nodes ∨ p = path := by
  unfold addNode
  split
  · next h =>
    constructor
    · exact Or.inl
    · rintro (hp | rfl)
      · exact hp
      · exact h
  · simp

theorem mem_foldl_addNode {paths nodes : List Path} {p : Path} :
    p ∈ paths.foldl addNode nodes ↔ p ∈ nodes ∨ p ∈ paths := by
  induction paths generalizing nodes with
  | nil => simp
  | cons path paths ih => rw [List.foldl_cons, ih, mem_addNode, List.mem_cons, or_assoc]

theorem nodup_addNode {nodes : List Path} (h : nodes.Nodup) (path : Path) :
    (addNode nodes path).Nodup := by
  unfold addNode
  split
  · exact h
  · next hp =>
    rw [List.nodup_append]
    refine ⟨h, by simp, ?_⟩
    rintro a ha b hb rfl
    exact hp (List.mem_singleton.mp hb ▸ ha)

theorem nodup_foldl_addNode {nodes : List Path} (h : nodes.Nodup) (paths : List Path) :
    (paths.foldl addNode nodes).Nodup := by
  induction paths generalizing nodes with
  | nil => exact h
  | cons path paths ih => exact ih (nodup_addNode h path)

theorem nodup_nodes_build (files : List InkFile) (root : Path) : (build files root).nodes.Nodup :=
  nodup_foldl_addNode List.nodup_nil _

theorem mem_nodes_build {files : List InkFile} {root p : Path} :
    p ∈ (build files root).nodes ↔ ∃ file ∈ files, p = file.path ∨ p ∈ file.targets root := by
  simp [build, mem_foldl_addNode, List.mem_flatMap]

/-! ## Which files the graph is built from -/

/-- The order of the files does not matter. -/
theorem same_of_perm {order files : List InkFile} (h : order.Perm files) (root : Path) :
    (build order root).Same (build files root) where
  nodes := by
    rw [List.perm_ext_iff_of_nodup (nodup_nodes_build order root) (nodup_nodes_build files root)]
    intro p
    rw [mem_nodes_build, mem_nodes_build]
    constructor
    · rintro ⟨file, hfile, hp⟩; exact ⟨file, h.mem_iff.mp hfile, hp⟩
    · rintro ⟨file, hfile, hp⟩; exact ⟨file, h.mem_iff.mpr hfile, hp⟩
  edges := h.flatMap_right _

/-- What the graph keeps of a file. -/
def view (file : InkFile) : Path × List Inclusion := (file.path, file.includes)

/-- Files that agree in path and include lines have the same graph. -/
theorem build_congr {files others : List InkFile} (h : files.map view = others.map view)
    (root : Path) : build files root = build others root := by
  have through {γ : Type} (g : Path × List Inclusion → List γ) :
      (files.flatMap fun file => g (view file)) = others.flatMap fun file => g (view file) := by
    rw [← List.flatMap_map view g files, ← List.flatMap_map view g others, h]
  unfold build
  congr 1
  · exact congrArg (List.foldl addNode []) (through fun (path, includes) =>
      path :: includes.map fun inclusion => root.resolve (.ofString inclusion.path))
  · exact through fun (path, includes) => includes.map fun inclusion =>
      IncludeEdge.mk path (root.resolve (.ofString inclusion.path)) inclusion.line

/-! ## What a file includes -/

theorem filter_edgesOf (file : InkFile) (root path : Path) :
    (edgesOf file root).filter (·.source = path) =
      if file.path = path then edgesOf file root else [] := by
  unfold edgesOf
  split
  · next h => simp [h]
  · next h => simp [h]

theorem edgesFrom_build {files : List InkFile} (hpaths : (files.map (·.path)).Nodup)
    {file : InkFile} (hfile : file ∈ files) (root : Path) :
    (build files root).edgesFrom file.path = edgesOf file root := by
  simp only [edgesFrom, build, List.filter_flatMap, filter_edgesOf]
  induction files with
  | nil => simp at hfile
  | cons first rest ih =>
    rw [List.map_cons, List.nodup_cons] at hpaths
    rw [List.flatMap_cons]
    rcases List.mem_cons.mp hfile with rfl | hfile
    · -- No later file has the path of the first one.
      have hrest : (rest.flatMap fun other =>
          if other.path = file.path then edgesOf other root else []) = [] := by
        rw [List.flatMap_eq_nil_iff]
        intro other hother
        have hne : other.path ≠ file.path := fun heq =>
          hpaths.1 (heq ▸ List.mem_map_of_mem hother)
        exact if_neg hne
      simp [hrest]
    · have hne : first.path ≠ file.path := fun heq => hpaths.1 (heq ▸ List.mem_map_of_mem hfile)
      rw [if_neg hne, List.nil_append]
      exact ih hpaths.2 hfile

/-- The include lines of a parsed file rise, so sorting its edges by line leaves them in order. -/
theorem includesOf_build {files : List InkFile} (hpaths : (files.map (·.path)).Nodup)
    {file : InkFile} (hfile : file ∈ files)
    (hrising : file.includes.Pairwise fun a b => a.line < b.line) (root : Path) :
    (build files root).includesOf file.path = file.targets root := by
  have hsorted : (edgesOf file root).Pairwise (edgeBefore · ·) := by
    unfold edgesOf
    rw [List.pairwise_map]
    exact hrising.imp fun hab => by simp [edgeBefore, hab]
  rw [includesOf, edgesFrom_build hpaths hfile, List.mergeSort_of_pairwise hsorted]
  simp [edgesOf, InkFile.targets]

end InkWorkspace.IncludeGraph
