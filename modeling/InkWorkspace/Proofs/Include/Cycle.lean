import InkWorkspace.Proofs.Include.Reach
import InkWorkspace.Proofs.Order
import InkWorkspace.Proofs.Uri
import Mathlib.Data.List.Nodup

/- Include cycles. Two files belong together if chains of include lines lead from each of them to the
   other. The files that belong to one, in path order, are its class (`IsClass`), and members of one
   class have the same one (`IsClass.congr`).

   The graph finds a class by walking from a file along its edges and along the turned ones
   (`mem_classOf_iff`), and sorting what both walks meet, which puts each path in front of the greater
   ones (`pairwise_mergeSort`). A class is a cycle if it has more than one member or its only member
   includes itself (`cycleOf?_eq_some_iff`), and of all its members only the first reports it, so it is
   reported once (`cycles_are_classes`).

   How the classes are found does not matter. Picking the cycles from the strongly connected components
   of the graph, in whatever order an algorithm gives them and their members, yields the same cycles and
   the same reports (`IsPartition.cyclesAmong_perm`, `IsPartition.cyclicIncludesAmong_eq`). -/
namespace InkWorkspace.IncludeGraph

/-! ## Edges -/

section Edges

variable {graph : IncludeGraph} {source target : Path}

theorem leads_iff_edge :
    graph.Leads source target ↔ ∃ edge ∈ graph.edges, edge.source = source ∧ edge.target = target := by
  simp [Leads, edgesFrom, and_assoc]

theorem reversed_leads_iff : graph.reversed.Leads source target ↔ graph.Leads target source := by
  simp only [leads_iff_edge, reversed, List.mem_map]
  constructor
  · intro hleads
    obtain ⟨_, ⟨edge, hedge, rfl⟩, hsource, htarget⟩ := hleads
    exact ⟨edge, hedge, htarget, hsource⟩
  · intro hleads
    obtain ⟨edge, hedge, hsource, htarget⟩ := hleads
    exact ⟨_, ⟨edge, hedge, rfl⟩, htarget, hsource⟩

theorem reversed_chain_iff :
    Relation.ReflTransGen graph.reversed.Leads source target ↔
      Relation.ReflTransGen graph.Leads target source := by
  have hswap : graph.reversed.Leads = Function.swap graph.Leads := by
    funext a b
    exact propext reversed_leads_iff
  rw [hswap]
  exact Relation.reflTransGen_swap

theorem includesItself_iff {path : Path} :
    graph.includesItself path = true ↔ graph.Leads path path := by
  rw [leads_iff_edge]
  simp [includesItself]

end Edges

/-! ## Walks -/

theorem reachFrom_nodup (graph : IncludeGraph) (pending seen : List Path) :
    (graph.reachFrom pending seen).Nodup ∧ ∀ path ∈ graph.reachFrom pending seen, path ∉ seen := by
  fun_induction reachFrom graph pending seen with
  | case1 seen => exact ⟨List.nodup_nil, fun _ hpath => absurd hpath List.not_mem_nil⟩
  | case2 seen path rest hs ih
  | case4 seen path rest hs hb ih => exact ih
  | case3 seen path rest hs hb ih =>
    obtain ⟨hnodup, hfresh⟩ := ih
    refine ⟨List.nodup_cons.mpr ⟨fun hmem => hfresh path hmem List.mem_cons_self, hnodup⟩, ?_⟩
    intro other hother
    rcases List.mem_cons.mp hother with rfl | hother
    · exact hs
    · exact fun hseen => hfresh other hother (List.mem_cons_of_mem path hseen)

/-! ## Sorting paths -/

theorem notAfter_trans (a b c : Path) (hab : notAfter a b = true) (hbc : notAfter b c = true) :
    notAfter a c = true := by
  simp only [notAfter, Bool.not_eq_true'] at hab hbc ⊢
  by_cases heq : a = b
  · rwa [heq]
  by_cases hsame : b = c
  · rwa [← hsame]
  have hfirst := (Path.before_total heq).resolve_right (by simp [hab])
  have hsecond := (Path.before_total hsame).resolve_right (by simp [hbc])
  exact Path.before_asymm (Path.before_trans hfirst hsecond)

theorem notAfter_total (a b : Path) : (notAfter a b || notAfter b a) = true := by
  cases hba : b.before a with
  | false => simp [notAfter, hba]
  | true => simp [notAfter, Path.before_asymm hba]

theorem pairwise_mergeSort {paths : List Path} (hnodup : paths.Nodup) :
    (paths.mergeSort notAfter).Pairwise (·.before · = true) := by
  have hnotAfter : (paths.mergeSort notAfter).Pairwise (notAfter · · = true) :=
    List.pairwise_mergeSort notAfter_trans notAfter_total paths
  have hne : (paths.mergeSort notAfter).Nodup :=
    (List.mergeSort_perm paths notAfter).nodup_iff.mpr hnodup
  refine (hnotAfter.and hne).imp fun hab => ?_
  refine (Path.before_total hab.2).resolve_right ?_
  simpa [notAfter] using hab.1

/-! ## Classes -/

/-- One of the files of that path has an include line that names the target. -/
def Includes (files : List InkFile) (root source target : Path) : Prop :=
  ∃ file ∈ files, file.path = source ∧ target ∈ file.targets root

/-- Chains of include lines lead from each of the two files to the other. -/
def Mutual (files : List InkFile) (root a b : Path) : Prop :=
  Relation.ReflTransGen (Includes files root) a b ∧
    Relation.ReflTransGen (Includes files root) b a

/-- The class of a file: it and the files that it reaches and that reach it, each once and in path
    order. -/
structure IsClass (files : List InkFile) (root path : Path) (members : List Path) : Prop where
  mem_iff : ∀ other, other ∈ members ↔ Mutual files root path other
  rising : members.Pairwise (·.before · = true)

/-- The include lines of the files of that path. -/
def inclusionsAt (files : List InkFile) (path : Path) : List Inclusion :=
  (files.filter (·.path = path)).flatMap (·.includes)

section Classes

variable {files : List InkFile} {root path other : Path} {members : List Path}

theorem leads_eq : (build files root).Leads = Includes files root := by
  funext source target
  exact propext leads_build_iff

theorem includes_iff : Includes files root path other ↔
    ∃ inclusion ∈ inclusionsAt files path, root.resolve (.ofString inclusion.path) = other := by
  simp only [Includes, inclusionsAt, InkFile.targets, List.mem_map, List.mem_flatMap,
    List.mem_filter, decide_eq_true_eq]
  constructor
  · intro hincludes
    obtain ⟨file, hfile, hpath, inclusion, hinclusion, heq⟩ := hincludes
    exact ⟨inclusion, ⟨file, ⟨hfile, hpath⟩, hinclusion⟩, heq⟩
  · intro hincludes
    obtain ⟨inclusion, ⟨file, ⟨hfile, hpath⟩, hinclusion⟩, heq⟩ := hincludes
    exact ⟨file, hfile, hpath, inclusion, hinclusion, heq⟩

theorem Mutual.refl (files : List InkFile) (root path : Path) : Mutual files root path path :=
  ⟨.refl, .refl⟩

theorem Mutual.symm (h : Mutual files root path other) : Mutual files root other path :=
  ⟨h.2, h.1⟩

theorem Mutual.trans {last : Path} (h : Mutual files root path other)
    (h' : Mutual files root other last) : Mutual files root path last :=
  ⟨h.1.trans h'.1, h'.2.trans h.2⟩

theorem IsClass.self_mem (h : IsClass files root path members) : path ∈ members :=
  (h.mem_iff path).mpr (.refl files root path)

theorem IsClass.congr (h : IsClass files root path members) (hother : other ∈ members) :
    IsClass files root other members where
  mem_iff := fun last => by
    have hmutual := (h.mem_iff other).mp hother
    rw [h.mem_iff]
    exact ⟨hmutual.symm.trans, hmutual.trans⟩
  rising := h.rising

theorem nodup_of_rising (h : members.Pairwise (·.before · = true)) : members.Nodup :=
  h.imp fun {a b} hab heq => by
    rw [heq, Path.before_irrefl] at hab
    cases hab

theorem IsClass.unique {members' : List Path} (h : IsClass files root path members)
    (h' : IsClass files root path members') : members = members' := by
  have hperm : members.Perm members' := by
    rw [List.perm_ext_iff_of_nodup (nodup_of_rising h.rising) (nodup_of_rising h'.rising)]
    exact fun other => (h.mem_iff other).trans (h'.mem_iff other).symm
  refine List.Perm.eq_of_pairwise (fun a b _ _ hab hba => ?_) h.rising h'.rising hperm
  rw [Path.before_asymm hab] at hba
  cases hba

theorem node_of_includes (h : Includes files root path other) :
    path ∈ (build files root).nodes := by
  obtain ⟨file, hfile, rfl, -⟩ := h
  exact mem_nodes_build.mpr ⟨file, hfile, Or.inl rfl⟩

/-- A file that is not in the graph is alone in its class. -/
theorem isClass_singleton (h : path ∉ (build files root).nodes) :
    IsClass files root path [path] where
  mem_iff := fun other => by
    rw [List.mem_singleton]
    constructor
    · intro heq
      subst heq
      exact .refl files root other
    · intro hmutual
      rcases Relation.ReflTransGen.cases_head hmutual.1 with rfl | ⟨next, hincludes, -⟩
      · rfl
      · exact absurd (node_of_includes hincludes) h
  rising := List.pairwise_singleton _ _

theorem IsClass.one_lt_length_iff (h : IsClass files root path members) :
    1 < members.length ↔ ∃ next ∈ members, next ≠ path := by
  have hsingle := (nodup_of_rising h.rising).ne_singleton_iff path
  rw [or_iff_right (List.ne_nil_of_mem h.self_mem)] at hsingle
  rw [← hsingle]
  constructor
  · intro hlength heq
    rw [heq] at hlength
    exact absurd hlength (by simp)
  · intro hne
    have hpos := List.length_pos_of_mem h.self_mem
    by_contra hlength
    obtain ⟨only, rfl⟩ := List.length_eq_one_iff.mp (by omega : members.length = 1)
    exact hne (by rw [List.mem_singleton.mp h.self_mem])

/-- A file lies on a cycle if its class has more than one member or it includes itself. -/
theorem IsClass.circular_iff (h : IsClass files root path members) :
    Relation.TransGen (Includes files root) path path ↔
      1 < members.length ∨ Includes files root path path := by
  constructor
  · intro hcycle
    obtain ⟨next, hincludes, hback⟩ := Relation.TransGen.head'_iff.mp hcycle
    by_cases heq : path = next
    · exact Or.inr (heq ▸ hincludes)
    · have hnext : next ∈ members := (h.mem_iff next).mpr ⟨.single hincludes, hback⟩
      exact Or.inl (h.one_lt_length_iff.mpr ⟨next, hnext, Ne.symm heq⟩)
  · intro hcircular
    rcases hcircular with hlength | hself
    · obtain ⟨next, hnext, hne⟩ := h.one_lt_length_iff.mp hlength
      obtain ⟨hthere, hback⟩ := (h.mem_iff next).mp hnext
      have hleaves := (Relation.reflTransGen_iff_eq_or_transGen.mp hthere).resolve_left hne
      exact hleaves.trans_left hback
    · exact .single hself

/-! ## Cycles -/

theorem reversed_build_closed (files : List InkFile) (root : Path) :
    (build files root).reversed.Closed := by
  intro source target hleads
  rw [reversed_leads_iff, leads_eq] at hleads
  exact node_of_includes hleads

theorem mem_classOf_iff : other ∈ (build files root).classOf path ↔
    path ∈ (build files root).nodes ∧ Mutual files root path other := by
  rw [classOf, List.mem_mergeSort, List.mem_filter, decide_eq_true_iff, reaching,
    mem_reachableFrom_iff (build_closed files root),
    mem_reachableFrom_iff (reversed_build_closed files root), reversed_chain_iff, leads_eq]
  exact and_and_left.symm

/-- The graph finds the class of each of its files. -/
theorem isClass_classOf (hnode : path ∈ (build files root).nodes) :
    IsClass files root path ((build files root).classOf path) where
  mem_iff := fun _ => mem_classOf_iff.trans (and_iff_right hnode)
  rising := pairwise_mergeSort ((reachFrom_nodup _ _ _).1.filter _)

theorem cycleOf?_eq_some_iff :
    (build files root).cycleOf? path = some members ↔
      IsClass files root path members ∧ Relation.TransGen (Includes files root) path path := by
  unfold cycleOf?
  dsimp only
  constructor
  · intro hcycle
    split at hcycle
    · next hcircular =>
      cases hcycle
      simp only [Bool.or_eq_true, Bool.and_eq_true, decide_eq_true_eq, includesItself_iff,
        leads_eq] at hcircular
      -- Outside of the graph the class is empty, which is no cycle.
      have hnode : path ∈ (build files root).nodes := by
        have hne : (build files root).classOf path ≠ [] := by
          intro hnil
          simp [hnil] at hcircular
        obtain ⟨other, hother⟩ := List.exists_mem_of_ne_nil _ hne
        exact (mem_classOf_iff.mp hother).1
      have hclass := isClass_classOf hnode
      exact ⟨hclass, hclass.circular_iff.mpr (hcircular.imp_right And.right)⟩
    · cases hcycle
  · intro hfound
    obtain ⟨hclass, hcycle⟩ := hfound
    obtain ⟨next, hincludes, -⟩ := Relation.TransGen.head'_iff.mp hcycle
    obtain rfl := hclass.unique (isClass_classOf (node_of_includes hincludes))
    rw [if_pos]
    have hpos := List.length_pos_of_mem hclass.self_mem
    have hcircular := hclass.circular_iff.mp hcycle
    simp only [Bool.or_eq_true, Bool.and_eq_true, decide_eq_true_eq, includesItself_iff, leads_eq]
    by_cases hlength : 1 < ((build files root).classOf path).length
    · exact Or.inl hlength
    · exact Or.inr ⟨by omega, hcircular.resolve_left hlength⟩

/-- A cycle is the class of a file that lies on one. -/
theorem mem_cycles_iff :
    members ∈ (build files root).cycles ↔
      ∃ path, IsClass files root path members ∧
        Relation.TransGen (Includes files root) path path := by
  simp only [cycles, List.mem_filterMap, List.mem_mergeSort, Option.filter_eq_some_iff,
    decide_eq_true_eq, cycleOf?_eq_some_iff]
  constructor
  · intro hreported
    obtain ⟨path, -, hcycle, -⟩ := hreported
    exact ⟨path, hcycle⟩
  · intro hfound
    obtain ⟨path, hclass, hcycle⟩ := hfound
    -- The first member reports the cycle.
    cases members with
    | nil => cases hclass.self_mem
    | cons first rest =>
      obtain ⟨hthere, hback⟩ := (hclass.mem_iff first).mp List.mem_cons_self
      have hfirst := (Relation.TransGen.trans_right hback hcycle).trans_left hthere
      obtain ⟨next, hincludes, -⟩ := Relation.TransGen.head'_iff.mp hfirst
      exact ⟨first, node_of_includes hincludes, ⟨hclass.congr List.mem_cons_self, hfirst⟩, rfl⟩

theorem nodup_cycles (files : List InkFile) (root : Path) : (build files root).cycles.Nodup := by
  refine List.Nodup.filterMap (fun a b members ha hb => ?_)
    ((List.mergeSort_perm _ notAfter).nodup_iff.mpr (nodup_nodes_build files root))
  -- A cycle is reported by its first member.
  simp only [Option.mem_def, Option.filter_eq_some_iff, decide_eq_true_eq] at ha hb
  exact Option.some.inj (ha.2.symm.trans hb.2)

/-! ## Include lines on a cycle -/

theorem edgesFrom_eq (files : List InkFile) (root path : Path) :
    (build files root).edgesFrom path = (inclusionsAt files path).map fun inclusion =>
      ⟨path, root.resolve (.ofString inclusion.path), inclusion.line⟩ := by
  simp only [edgesFrom, build, inclusionsAt, List.filter_flatMap, filter_edgesOf, List.map_flatMap]
  induction files with
  | nil => rfl
  | cons file files ih =>
    rw [List.flatMap_cons, ih, List.filter_cons]
    split
    · next h => simp [h, edgesOf]
    · next h => simp [h]

open scoped Classical in
/-- The include lines of a file that are reported are those whose target leads back to it, each with
    its number and the class of the file. -/
theorem cyclicIncludes_eq (hclass : IsClass files root path members) :
    (build files root).cyclicIncludes path = ((inclusionsAt files path).reverse.filter
      fun inclusion => Relation.ReflTransGen (Includes files root)
        (root.resolve (.ofString inclusion.path)) path).map
          fun inclusion => (inclusion.line, members) := by
  have hreach : ∀ inclusion ∈ inclusionsAt files path,
      (root.resolve (.ofString inclusion.path) ∈ members ↔
        Relation.ReflTransGen (Includes files root) (root.resolve (.ofString inclusion.path)) path) := by
    intro inclusion hinclusion
    rw [hclass.mem_iff]
    exact and_iff_right (.single (includes_iff.mpr ⟨inclusion, hinclusion, rfl⟩))
  unfold cyclicIncludes
  split
  · next hnone =>
    -- A line that leads back would put the file on a cycle.
    symm
    rw [List.map_eq_nil_iff, List.filter_eq_nil_iff]
    intro inclusion hinclusion hback
    rw [List.mem_reverse] at hinclusion
    have hcycle : Relation.TransGen (Includes files root) path path :=
      .head' (includes_iff.mpr ⟨inclusion, hinclusion, rfl⟩) (of_decide_eq_true hback)
    rw [cycleOf?_eq_some_iff.mpr ⟨hclass, hcycle⟩] at hnone
    cases hnone
  · next cycle hcycle =>
    obtain ⟨hfound, -⟩ := cycleOf?_eq_some_iff.mp hcycle
    obtain rfl := hclass.unique hfound
    rw [edgesFrom_eq, ← List.map_reverse, List.filter_map, List.map_map]
    congr 1
    refine List.filter_congr fun inclusion hinclusion => ?_
    exact decide_eq_decide.mpr (hreach inclusion (List.mem_reverse.mp hinclusion))

/-! ## Strongly connected components -/

/-- What an algorithm for strongly connected components finds: each node in one component, and with a
    node all that it reaches and that reach it. -/
structure IsPartition (graph : IncludeGraph) (components : List (List Path)) : Prop where
  nodup : components.flatten.Nodup
  mem_iff : ∀ node, node ∈ components.flatten ↔ node ∈ graph.nodes
  ne_nil : ∀ component ∈ components, component ≠ []
  connected : ∀ component ∈ components, ∀ a ∈ component, ∀ b, b ∈ component ↔
    Relation.ReflTransGen graph.Leads a b ∧ Relation.ReflTransGen graph.Leads b a

/-- The cycles among some components: those with more than one member or with a file that includes
    itself, each sorted. -/
def cyclesAmong (graph : IncludeGraph) (components : List (List Path)) : List (List Path) :=
  (components.filter fun component =>
    1 < component.length || component.head?.any graph.includesItself).map (·.mergeSort notAfter)

/-- The include lines of a file that lead back to it, from the last one up, each with the cycle among
    the components. -/
def cyclicIncludesAmong (graph : IncludeGraph) (components : List (List Path)) (path : Path) :
    List (Nat × List Path) :=
  match (graph.cyclesAmong components).find? (path ∈ ·) with
  | none => []
  | some cycle =>
    ((graph.edgesFrom path).reverse.filter fun edge => edge.target ∈ cycle).map fun edge =>
      (edge.line, cycle)

variable {components : List (List Path)} {component : List Path}

/-- A component is the class of each of its members. -/
theorem IsPartition.isClass (h : IsPartition (build files root) components)
    (hcomponent : component ∈ components) (hpath : path ∈ component) :
    IsClass files root path (component.mergeSort notAfter) where
  mem_iff := fun other => by
    rw [List.mem_mergeSort, h.connected component hcomponent path hpath, leads_eq, Mutual]
  rising := pairwise_mergeSort ((List.nodup_flatten.mp h.nodup).1 component hcomponent)

theorem IsPartition.mem_cyclesAmong_iff (h : IsPartition (build files root) components) :
    members ∈ (build files root).cyclesAmong components ↔
      ∃ path, IsClass files root path members ∧
        Relation.TransGen (Includes files root) path path := by
  simp only [cyclesAmong, List.mem_map, List.mem_filter, Bool.or_eq_true, decide_eq_true_eq]
  constructor
  · intro hcycle
    obtain ⟨component, ⟨hcomponent, hcircular⟩, rfl⟩ := hcycle
    -- Any member will do: they all have one class.
    obtain ⟨first, rest, rfl⟩ := List.exists_cons_of_ne_nil (h.ne_nil component hcomponent)
    have hclass := h.isClass hcomponent List.mem_cons_self
    refine ⟨first, hclass, hclass.circular_iff.mpr ?_⟩
    rw [List.length_mergeSort]
    refine hcircular.imp_right fun hself => ?_
    rw [← leads_eq]
    exact includesItself_iff.mp (by simpa using hself)
  · intro hcycle
    obtain ⟨path, hclass, hcycle⟩ := hcycle
    obtain ⟨next, hincludes, -⟩ := Relation.TransGen.head'_iff.mp hcycle
    obtain ⟨component, hcomponent, hpath⟩ :=
      List.mem_flatten.mp ((h.mem_iff path).mpr (node_of_includes hincludes))
    obtain rfl := hclass.unique (h.isClass hcomponent hpath)
    refine ⟨component, ⟨hcomponent, ?_⟩, rfl⟩
    have hcircular := hclass.circular_iff.mp hcycle
    rw [List.length_mergeSort] at hcircular
    by_cases hlength : 1 < component.length
    · exact Or.inl hlength
    · -- The file is the only member of its component.
      obtain ⟨only, rfl⟩ : ∃ only, component = [only] := by
        have hpos := List.length_pos_of_mem hpath
        exact List.length_eq_one_iff.mp (by omega)
      rw [List.mem_singleton.mp hpath, ← leads_eq] at hcircular
      exact Or.inr (by simpa using includesItself_iff.mpr (hcircular.resolve_left hlength))

theorem IsPartition.nodup_cyclesAmong (h : IsPartition (build files root) components) :
    ((build files root).cyclesAmong components).Nodup := by
  refine List.pairwise_map.mpr (((List.nodup_flatten.mp h.nodup).2.imp_of_mem ?_).filter _)
  -- Different components have no member in common.
  intro a b ha hb hdisjoint heq
  obtain ⟨path, hpath⟩ := List.exists_mem_of_ne_nil a (h.ne_nil a ha)
  have hsame : path ∈ b.mergeSort notAfter := heq ▸ List.mem_mergeSort.mpr hpath
  exact hdisjoint hpath (List.mem_mergeSort.mp hsame)

/-- Whatever components are found, the cycles among them are those of the graph. -/
theorem IsPartition.cyclesAmong_perm (h : IsPartition (build files root) components) :
    ((build files root).cyclesAmong components).Perm (build files root).cycles := by
  rw [List.perm_ext_iff_of_nodup h.nodup_cyclesAmong (nodup_cycles files root)]
  exact fun members => h.mem_cyclesAmong_iff.trans mem_cycles_iff.symm

theorem IsPartition.find?_cyclesAmong (h : IsPartition (build files root) components)
    (path : Path) :
    ((build files root).cyclesAmong components).find? (path ∈ ·) =
      (build files root).cycleOf? path := by
  cases hfound : ((build files root).cyclesAmong components).find? (path ∈ ·) with
  | some members =>
    have hpath : path ∈ members := by simpa using List.find?_some hfound
    obtain ⟨other, hclass, hcycle⟩ :=
      h.mem_cyclesAmong_iff.mp (List.mem_of_find?_eq_some hfound)
    symm
    obtain ⟨hthere, hback⟩ := (hclass.mem_iff path).mp hpath
    exact cycleOf?_eq_some_iff.mpr ⟨hclass.congr hpath,
      (Relation.TransGen.trans_right hback hcycle).trans_left hthere⟩
  | none =>
    symm
    refine Option.eq_none_iff_forall_ne_some.mpr fun members hcycle => ?_
    have hclass := cycleOf?_eq_some_iff.mp hcycle
    have hmem := h.mem_cyclesAmong_iff.mpr ⟨path, hclass⟩
    exact List.find?_eq_none.mp hfound members hmem (by simpa using hclass.1.self_mem)

theorem IsPartition.cyclicIncludesAmong_eq (h : IsPartition (build files root) components)
    (path : Path) :
    (build files root).cyclicIncludesAmong components path =
      (build files root).cyclicIncludes path := by
  have hcycle := h.find?_cyclesAmong path
  unfold cyclicIncludesAmong cyclicIncludes
  cases hfound : (build files root).cycleOf? path with
  | none => simp only [hcycle, hfound]
  | some cycle => simp only [hcycle, hfound]

end Classes

open scoped Classical in
/-- Cycles are reported exactly. They are the classes with more than one member or with a file that
    includes itself, each once; and of a file those include lines are reported whose target leads back
    to it, each with its number and the class of the file. Any algorithm that finds the strongly
    connected components gives the same. -/
theorem cycles_are_classes (files : List InkFile) (root : Path) :
    let graph := build files root
    graph.cycles.Nodup ∧
    (∀ cycle, cycle ∈ graph.cycles ↔ ∃ path, IsClass files root path cycle ∧
      (1 < cycle.length ∨ Includes files root path path)) ∧
    (∀ path, ∃ members, IsClass files root path members ∧
      graph.cyclicIncludes path = ((inclusionsAt files path).reverse.filter
        fun inclusion => Relation.ReflTransGen (Includes files root)
          (root.resolve (.ofString inclusion.path)) path).map
            fun inclusion => (inclusion.line, members)) ∧
    ∀ components, IsPartition graph components →
      (graph.cyclesAmong components).Perm graph.cycles ∧
        ∀ path, graph.cyclicIncludesAmong components path = graph.cyclicIncludes path := by
  intro graph
  refine ⟨nodup_cycles files root, fun cycle => ?_, fun path => ?_, fun components hcomponents =>
    ⟨hcomponents.cyclesAmong_perm, hcomponents.cyclicIncludesAmong_eq⟩⟩
  · rw [mem_cycles_iff]
    exact exists_congr fun path => and_congr_right fun hclass => hclass.circular_iff
  · have hclass : ∃ members, IsClass files root path members := by
      by_cases hnode : path ∈ (build files root).nodes
      · exact ⟨_, isClass_classOf hnode⟩
      · exact ⟨_, isClass_singleton hnode⟩
    obtain ⟨members, hclass⟩ := hclass
    exact ⟨members, hclass, cyclicIncludes_eq hclass⟩

namespace Ring

def root : Path := .ofString "/p"

def a : Path := .ofString "/p/a.ink"

def b : Path := .ofString "/p/b.ink"

def gone : Path := .ofString "/p/gone.ink"

/-- Two include lines for the other file, and one for a missing file between them. -/
def first : InkFile :=
  .read a "INCLUDE b.ink\nINCLUDE gone.ink\nINCLUDE b.ink\n"

/-- An include line for the file itself and one for the other file. -/
def second : InkFile :=
  .read b "INCLUDE b.ink\nINCLUDE a.ink\n"

def files : List InkFile := [first, second]

theorem reading :
    Path.ofString "/p" = root ∧ Path.ofString "/p/a.ink" = a ∧ Path.ofString "/p/b.ink" = b ∧
      a.before b = true ∧ first.targets root = [b, gone, b] ∧ second.targets root = [b, a] ∧
      root.resolve (.ofString "b.ink") = b ∧ root.resolve (.ofString "gone.ink") = gone ∧
      inclusionsAt files a =
        [⟨"b.ink", 0, ⟨⟨0, 0⟩, ⟨0, 13⟩⟩⟩, ⟨"gone.ink", 1, ⟨⟨1, 0⟩, ⟨1, 16⟩⟩⟩,
          ⟨"b.ink", 2, ⟨⟨2, 0⟩, ⟨2, 13⟩⟩⟩] := by decide +kernel

variable {source target : Path}

theorem includes_ring : Includes files root source target ↔
    source = a ∧ (target = b ∨ target = gone) ∨ source = b ∧ (target = b ∨ target = a) := by
  obtain ⟨-, -, -, -, hfirst, hsecond, -⟩ := reading
  have hpaths : first.path = a ∧ second.path = b := ⟨rfl, rfl⟩
  simp only [Includes, files, List.mem_cons, List.not_mem_nil, or_false, exists_eq_or_imp,
    exists_eq_left, hpaths, hfirst, hsecond, eq_comm (b := source)]
  refine or_congr_left (and_congr_right fun _ => ?_)
  rw [or_comm, or_assoc, or_self, or_comm]

theorem nodes_ring : target ∈ (build files root).nodes ↔ target = a ∨ target = b ∨ target = gone := by
  obtain ⟨-, -, -, -, hfirst, hsecond, -⟩ := reading
  have hpaths : first.path = a ∧ second.path = b := ⟨rfl, rfl⟩
  simp only [mem_nodes_build, files, List.mem_cons, List.not_mem_nil, or_false, exists_eq_or_imp,
    exists_eq_left, hpaths, hfirst, hsecond]
  grind

theorem isClass_a : IsClass files root a [a, b] where
  mem_iff := fun other => by
    have hthere : Includes files root a b := includes_ring.mpr (Or.inl ⟨rfl, Or.inl rfl⟩)
    have hback : Includes files root b a := includes_ring.mpr (Or.inr ⟨rfl, Or.inr rfl⟩)
    simp only [List.mem_cons, List.not_mem_nil, or_false]
    constructor
    · intro hmember
      rcases hmember with heq | heq
      · rw [heq]
        exact .refl files root a
      · rw [heq]
        exact ⟨.single hthere, .single hback⟩
    · intro hmutual
      -- What leads to the first file is a file with include lines, or the first one itself.
      rcases Relation.ReflTransGen.cases_head hmutual.2 with heq | ⟨next, hincludes, -⟩
      · exact Or.inl heq
      · exact (includes_ring.mp hincludes).imp And.left And.left
  rising := List.pairwise_pair.mpr reading.2.2.2.1

theorem eq_gone_of_chain (h : Relation.ReflTransGen (Includes files root) gone target) :
    target = gone := by
  rcases Relation.ReflTransGen.cases_head h with heq | ⟨next, hincludes, -⟩
  · exact heq.symm
  · rcases includes_ring.mp hincludes with ⟨hpath, -⟩ | ⟨hpath, -⟩
    · exact absurd hpath (by decide)
    · exact absurd hpath (by decide)

theorem isClass_gone : IsClass files root gone [gone] where
  mem_iff := fun other => by
    rw [List.mem_singleton]
    constructor
    · intro heq
      rw [heq]
      exact .refl files root gone
    · intro hmutual
      exact eq_gone_of_chain hmutual.1
  rising := List.pairwise_singleton _ _

theorem isPartition : IsPartition (build files root) [[gone], [b, a]] where
  nodup := by decide
  mem_iff := fun node => by
    rw [nodes_ring]
    simp [or_comm, or_left_comm]
  ne_nil := by simp
  connected := by
    intro component hcomponent path hpath other
    have hclass : ∃ members, IsClass files root path members ∧ members.Perm component := by
      simp only [List.mem_cons, List.not_mem_nil, or_false] at hcomponent
      rcases hcomponent with rfl | rfl
      · rw [List.mem_singleton.mp hpath]
        exact ⟨[gone], isClass_gone, List.Perm.refl _⟩
      · exact ⟨[a, b], isClass_a.congr (by simpa [or_comm] using hpath), List.Perm.swap b a []⟩
    obtain ⟨members, hclass, hperm⟩ := hclass
    rw [← hperm.mem_iff, leads_eq]
    exact hclass.mem_iff other

/-- The two files are one cycle. The missing file between the include lines does not lead back, so its
    line is not reported. -/
theorem cycles_of_ring :
    [a, b] ∈ (build files root).cycles ∧
      IsPartition (build files root) [[gone], [b, a]] ∧
      (build files root).cyclicIncludesAmong [[gone], [b, a]] a = [(2, [a, b]), (0, [a, b])] := by
  obtain ⟨-, hcycles, hlines, hcomponents⟩ := cycles_are_classes files root
  refine ⟨(hcycles _).mpr ⟨a, isClass_a, Or.inl (by decide)⟩, isPartition, ?_⟩
  obtain ⟨members, hclass, heq⟩ := hlines a
  obtain rfl := hclass.unique isClass_a
  obtain ⟨-, -, -, -, -, -, hb, hgone, hinclusions⟩ := reading
  have hback : Relation.ReflTransGen (Includes files root) b a :=
    ((isClass_a.mem_iff b).mp (by simp)).2
  have hnot : ¬ Relation.ReflTransGen (Includes files root) gone a := by
    intro hchain
    exact absurd (eq_gone_of_chain hchain) (by decide)
  rw [(hcomponents _ isPartition).2 a, heq, hinclusions]
  simp [hb, hgone, hback, hnot]

end Ring

end InkWorkspace.IncludeGraph
