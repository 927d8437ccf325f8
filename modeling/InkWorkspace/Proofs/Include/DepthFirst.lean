import InkWorkspace.Proofs.Include.Reach

/- The order in which files are loaded. `DepthFirst` is the walk as a recursion: a node that has been
   visited is passed over, one that cannot be read is only marked, and any other is given, then all that
   is found below it, and then what is found from the nodes pending beside it, with everything marked
   that has been met in between. It leaves no choice (`DepthFirst.unique`), gives no node twice
   (`DepthFirst.nodup`), and gives none before one that names it (`DepthFirst.preceded`).

   Loading keeps a single list of pending paths, with what a file includes in front of the rest. A walk
   over such a list can be cut between any two of them (`DepthFirst.split`), so this is the same walk
   (`loadFrom_depthFirst`), and a run of it on any disk ends, whatever includes what. -/
namespace InkWorkspace.Include

/-- A depth-first walk from pending nodes, where `next` gives the nodes that a readable one names. The
    nodes `seen` have been visited before it, the nodes `after` when it ends, and it gives the nodes
    `given`, in the order in which it first meets them. -/
inductive DepthFirst {α : Type} (next : α → Option (List α)) :
    (pending seen given after : List α) → Prop where
  | done {seen : List α} : DepthFirst next [] seen [] seen
  | visited {a : α} {rest seen given after : List α} :
    a ∈ seen → DepthFirst next rest seen given after → DepthFirst next (a :: rest) seen given after
  | unreadable {a : α} {rest seen given after : List α} :
    a ∉ seen → next a = none → DepthFirst next rest (a :: seen) given after →
      DepthFirst next (a :: rest) seen given after
  | read {a : α} {below rest seen between after inner outer : List α} :
    a ∉ seen → next a = some below → DepthFirst next below (a :: seen) inner between →
      DepthFirst next rest between outer after →
      DepthFirst next (a :: rest) seen (a :: (inner ++ outer)) after

namespace DepthFirst

variable {α : Type} {next : α → Option (List α)} {pending seen given after : List α}

/-- A walk can be cut between any two pending nodes. -/
theorem split {front back : List α} (h : DepthFirst next (front ++ back) seen given after) :
    ∃ first between second, DepthFirst next front seen first between ∧
      DepthFirst next back between second after ∧ given = first ++ second := by
  induction front generalizing seen given with
  | nil => exact ⟨[], seen, given, .done, h, rfl⟩
  | cons a front ih =>
    cases h with
    | visited hseen hrest =>
      obtain ⟨first, between, second, hfront, hback, hgiven⟩ := ih hrest
      exact ⟨first, between, second, .visited hseen hfront, hback, hgiven⟩
    | unreadable hnew hnone hrest =>
      obtain ⟨first, between, second, hfront, hback, hgiven⟩ := ih hrest
      exact ⟨first, between, second, .unreadable hnew hnone hfront, hback, hgiven⟩
    | @read _ below _ _ _ _ inner outer hnew hsome hbelow hrest =>
      obtain ⟨first, between, second, hfront, hback, hgiven⟩ := ih hrest
      refine ⟨a :: (inner ++ first), between, second, .read hnew hsome hbelow hfront, hback, ?_⟩
      rw [hgiven, List.cons_append, List.append_assoc]

/-- There is one walk from given nodes. -/
theorem unique {given' after' : List α} (h : DepthFirst next pending seen given after)
    (h' : DepthFirst next pending seen given' after') : given = given' ∧ after = after' := by
  -- At each node, what has been seen and what the node leads to leave one rule only.
  induction h generalizing given' after' with
  | done =>
    cases h'
    exact ⟨rfl, rfl⟩
  | visited hseen _ ih =>
    cases h' with
    | visited _ hrest => exact ih hrest
    | unreadable hnew => exact absurd hseen hnew
    | read hnew => exact absurd hseen hnew
  | unreadable hnew hnone _ ih =>
    cases h' with
    | visited hseen => exact absurd hseen hnew
    | unreadable _ _ hrest => exact ih hrest
    | read _ hsome =>
      rw [hnone] at hsome
      cases hsome
  | read hnew hsome _ _ ihbelow ihrest =>
    cases h' with
    | visited hseen => exact absurd hseen hnew
    | unreadable _ hnone =>
      rw [hnone] at hsome
      cases hsome
    | read _ hsome' hbelow hrest =>
      rw [hsome] at hsome'
      cases hsome'
      obtain ⟨rfl, rfl⟩ := ihbelow hbelow
      obtain ⟨rfl, rfl⟩ := ihrest hrest
      exact ⟨rfl, rfl⟩

theorem visits (h : DepthFirst next pending seen given after) :
    (∀ b ∈ seen, b ∈ after) ∧ ∀ b ∈ given, b ∉ seen ∧ b ∈ after := by
  induction h with
  | done => exact ⟨fun _ hb => hb, nofun⟩
  | visited _ _ ih => exact ih
  | unreadable _ _ _ ih =>
    exact ⟨fun b hb => ih.1 b (List.mem_cons_of_mem _ hb), fun b hb =>
      ⟨fun hseen => (ih.2 b hb).1 (List.mem_cons_of_mem _ hseen), (ih.2 b hb).2⟩⟩
  | read hnew _ _ _ ihbelow ihrest =>
    refine ⟨fun b hb => ihrest.1 b (ihbelow.1 b (List.mem_cons_of_mem _ hb)), fun b hb => ?_⟩
    rcases List.mem_cons.mp hb with rfl | hb
    · exact ⟨hnew, ihrest.1 b (ihbelow.1 b List.mem_cons_self)⟩
    · rcases List.mem_append.mp hb with hb | hb
      · obtain ⟨hfresh, hbetween⟩ := ihbelow.2 b hb
        exact ⟨fun hseen => hfresh (List.mem_cons_of_mem _ hseen), ihrest.1 b hbetween⟩
      · obtain ⟨hfresh, hafter⟩ := ihrest.2 b hb
        exact ⟨fun hseen => hfresh (ihbelow.1 b (List.mem_cons_of_mem _ hseen)), hafter⟩

theorem nodup (h : DepthFirst next pending seen given after) : given.Nodup := by
  induction h with
  | done => exact List.nodup_nil
  | visited _ _ ih => exact ih
  | unreadable _ _ _ ih => exact ih
  | read _ _ hbelow hrest ihbelow ihrest =>
    have hinner := hbelow.visits
    have houter := hrest.visits
    rw [List.nodup_cons, List.mem_append, List.nodup_append]
    refine ⟨?_, ihbelow, ihrest, ?_⟩
    · rintro (hmem | hmem)
      · exact (hinner.2 _ hmem).1 List.mem_cons_self
      · exact (houter.2 _ hmem).1 (hinner.1 _ List.mem_cons_self)
    · rintro b hb _ hmem rfl
      exact (houter.2 b hmem).1 (hinner.2 b hb).2

/-- Every node that is given was pending or is named by one that is given before it. -/
theorem preceded (h : DepthFirst next pending seen given after) {front back : List α} {a : α}
    (hgiven : given = front ++ a :: back) :
    a ∈ pending ∨ ∃ b ∈ front, ∃ below, next b = some below ∧ a ∈ below := by
  induction h generalizing front back with
  | done => simp at hgiven
  | visited _ _ ih
  | unreadable _ _ _ ih => exact (ih hgiven).imp_left (List.mem_cons_of_mem _)
  | @read first below rest _ _ _ inner outer _ hsome _ _ ihbelow ihrest =>
    cases front with
    | nil =>
      obtain ⟨rfl, -⟩ := List.cons.inj hgiven
      exact Or.inl List.mem_cons_self
    | cons _ front =>
      obtain ⟨rfl, hrest⟩ := List.cons.inj hgiven
      -- What is found beside the first node was pending already, what is found below it is not.
      have hbeside (met : List α) (hmet : ∀ b ∈ met, b ∈ front) (houter : outer = met ++ a :: back) :
          a ∈ first :: rest ∨ ∃ b ∈ first :: front, ∃ below, next b = some below ∧ a ∈ below := by
        rcases ihrest houter with hmem | ⟨b, hb, hnamed⟩
        · exact Or.inl (List.mem_cons_of_mem _ hmem)
        · exact Or.inr ⟨b, List.mem_cons_of_mem _ (hmet b hb), hnamed⟩
      rcases List.append_eq_append_iff.mp hrest with ⟨met, rfl, houter⟩ | ⟨more, hinner, hmore⟩
      · exact hbeside met (fun b hb => List.mem_append_right _ hb) houter
      · cases more with
        | nil => exact hbeside [] nofun hmore.symm
        | cons _ more =>
          obtain ⟨rfl, -⟩ := List.cons.inj hmore
          rcases ihbelow hinner with hmem | ⟨b, hb, hnamed⟩
          · exact Or.inr ⟨first, List.mem_cons_self, below, hsome, hmem⟩
          · exact Or.inr ⟨b, List.mem_cons_of_mem _ hb, hnamed⟩

theorem singleton_cases {a : α} (h : DepthFirst next [a] [] given after) :
    next a = none ∧ given = [] ∨ (next a).isSome = true ∧ ∃ more, given = a :: more := by
  cases h with
  | visited hseen => cases hseen
  | unreadable _ hnone hrest =>
    cases hrest
    exact Or.inl ⟨hnone, rfl⟩
  | read _ hsome => exact Or.inr ⟨Option.isSome_iff_exists.mpr ⟨_, hsome⟩, _, rfl⟩

theorem singleton_preceded {a b : α} (h : DepthFirst next [a] [] given after) {front back : List α}
    (hgiven : given = front ++ b :: back) (hfront : front ≠ []) :
    ∃ c ∈ front, ∃ below, next c = some below ∧ b ∈ below := by
  refine (h.preceded hgiven).resolve_left fun hmem => ?_
  -- The first node stands in front of all others, and it does not stand there twice.
  obtain ⟨first, front, rfl⟩ := List.exists_cons_of_ne_nil hfront
  have hnodup := h.nodup
  rcases h.singleton_cases with ⟨-, hnil⟩ | ⟨-, more, hmore⟩
  · rw [hnil] at hgiven
    cases hgiven
  · rw [hmore] at hgiven hnodup
    obtain ⟨-, rfl⟩ := List.cons.inj hgiven
    rw [List.mem_singleton.mp hmem] at hnodup
    exact absurd (by simp) (List.nodup_cons.mp hnodup).1

end DepthFirst

/-! ## Loading -/

/-- The files that the text at a path includes, in the order of its include lines, if it can be
    read. -/
def includesAt? (disk : Disk) (root path : Path) : Option (List Path) :=
  (disk.text? path).map fun text => (InkFile.read path text).targets root

theorem leads_of_includesAt? {disk : Disk} {root source target : Path} {below : List Path}
    (h : includesAt? disk root source = some below) (htarget : target ∈ below) :
    Leads disk root source target := by
  obtain ⟨text, htext, rfl⟩ := Option.map_eq_some_iff.mp h
  exact ⟨text, htext, InkFile.mem_targets_read.mp htarget⟩

/-- Loading walks depth first. -/
theorem loadFrom_depthFirst {disk : Disk} {root : Path} {pending seen : List Path}
    (hpending : ∀ path ∈ pending, path.normalize = path) :
    DepthFirst (includesAt? disk root) pending seen
      ((loadFrom disk root pending seen).1.map (·.path)) (loadFrom disk root pending seen).2 := by
  fun_induction loadFrom disk root pending seen with
  | case1 seen => exact .done
  | case2 seen path rest hs ih =>
    exact .visited hs (ih fun p hp => hpending p (List.mem_cons_of_mem path hp))
  | case3 seen path rest hs hb hnone ih =>
    have hunread : includesAt? disk root path = none := by rw [includesAt?, hnone, Option.map_none]
    exact .unreadable hs hunread (ih fun p hp => hpending p (List.mem_cons_of_mem path hp))
  | case4 seen path rest hs hb text htext file files seen' heq ih =>
    have hread : includesAt? disk root path = some (file.targets root) := by
      rw [includesAt?, htext, Option.map_some]
    have hnext : ∀ p ∈ file.targets root ++ rest, p.normalize = p := by
      intro p hp
      rcases List.mem_append.mp hp with hp | hp
      · exact InkFile.targets_normal hp
      · exact hpending p (List.mem_cons_of_mem path hp)
    -- What the file includes stands in front of the rest, so the walk is cut behind it.
    obtain ⟨inner, between, outer, hbelow, hrest, hgiven⟩ := (heq ▸ ih hnext).split
    rw [List.map_cons, hgiven]
    exact .read hs hread hbelow hrest
  | case5 seen path rest hs hb ih =>
    have hunread : includesAt? disk root path = none := by
      cases htext : disk.text? path with
      | none => rw [includesAt?, htext, Option.map_none]
      | some text => exact absurd (Disk.mem_spellings (hpending path List.mem_cons_self) htext) hb
    exact .unreadable hs hunread (ih fun p hp => hpending p (List.mem_cons_of_mem path hp))

/-- Loading from an absolute entry gives, as the disk has them, the files of the one depth-first walk
    from there: each once, exactly the readable ones to which include lines of readable files lead,
    the entry first, and every other one behind a file that includes it. -/
theorem load_depthFirst (disk : Disk) (root entry : Path) (habs : entry.absolute = true) :
    let files := load disk root entry
    let paths := files.map (·.path)
    (∃ visited, ∀ given after,
      DepthFirst (includesAt? disk root) [entry.normalize] [] given after ↔
        given = paths ∧ after = visited) ∧
    paths.Nodup ∧
    (∀ path, path ∈ paths ↔ (disk.text? path).isSome = true ∧
      Relation.ReflTransGen (Leads disk root) entry.normalize path) ∧
    ((disk.text? entry.normalize).isSome = true → paths.head? = some entry.normalize) ∧
    (disk.text? entry.normalize = none → files = []) ∧
    (∀ front path back, paths = front ++ path :: back → front ≠ [] →
      ∃ source ∈ front, Leads disk root source path) ∧
    ∀ file ∈ files, ∃ text, disk.text? file.path = some text ∧
      file = InkFile.read file.path text := by
  intro files paths
  -- An absolute entry is loaded as it is, wherever the root lies.
  have hentry : root.resolve entry = entry.normalize := by
    rw [Path.resolve, Path.join, if_pos habs]
  have hwalk : DepthFirst (includesAt? disk root) [entry.normalize] [] paths
      (loadFrom disk root [root.resolve entry] []).2 := by
    rw [← hentry]
    refine loadFrom_depthFirst fun path hpath => ?_
    rw [List.mem_singleton.mp hpath]
    exact Path.normalize_resolve root entry
  have hstart := hwalk.singleton_cases
  rw [includesAt?, Option.map_eq_none_iff, Option.isSome_map] at hstart
  refine ⟨⟨_, fun given after => ⟨fun h => h.unique hwalk, ?_⟩⟩, hwalk.nodup, ?_, ?_, ?_, ?_,
    load_onDisk disk root entry⟩
  · rintro ⟨rfl, rfl⟩
    exact hwalk
  · intro path
    rw [← hentry]
    exact mem_load_iff
  · intro hread
    rcases hstart with ⟨hnone, -⟩ | ⟨-, more, hpaths⟩
    · rw [hnone] at hread
      cases hread
    · rw [hpaths, List.head?_cons]
  · intro hunread
    rcases hstart with ⟨-, hpaths⟩ | ⟨hread, -⟩
    · exact List.map_eq_nil_iff.mp hpaths
    · rw [hunread] at hread
      cases hread
  · intro front path back hpaths hfront
    obtain ⟨source, hsource, below, hbelow, hpath⟩ := hwalk.singleton_preceded hpaths hfront
    exact ⟨source, hsource, leads_of_includesAt? hbelow hpath⟩

namespace SelfInclude

/-- Three files that include each other, the first also itself, and the second one that is missing. -/
def disk : Disk :=
  .ofTexts [("/p/c.ink", "INCLUDE a.ink\n"), ("/p/b.ink", "INCLUDE gone.ink\nINCLUDE c.ink\n"),
    ("/p/a.ink", "INCLUDE b.ink\nINCLUDE a.ink\nINCLUDE c.ink\n")]

/-- The folder of the files, as it is spelled from the working folder. -/
def root : Path := .ofString "p"

/-- The first file, on a way through a folder that is not there. -/
def entry : Path := .ofString "/q/../p/a.ink"

/-- The first file, as it is spelled when all is folded away. -/
def start : Path := .ofString "/p/a.ink"

/-- The first file, as it is spelled where it is included. -/
def a : Path := .ofString "p/a.ink"

def b : Path := .ofString "p/b.ink"

def c : Path := .ofString "p/c.ink"

def gone : Path := .ofString "p/gone.ink"

/-- The third file comes behind the second, which includes it first, and includes the first file under
    another spelling. -/
theorem load_depthFirst_entry :
    entry.absolute = true ∧ (load disk root entry).map (·.path) = [start, b, c, a] := by
  obtain ⟨visited, hwalk⟩ := (load_depthFirst disk root entry rfl).1
  have hagain : DepthFirst (includesAt? disk root) [a] [c, gone, b, start] [a]
      [a, c, gone, b, start] :=
    .read (by decide) (by decide +kernel : _ = some [b, a, c])
      (.visited (by decide) (.visited (by decide) (.visited (by decide) .done))) .done
  have hthird : DepthFirst (includesAt? disk root) [c] [gone, b, start] [c, a]
      [a, c, gone, b, start] :=
    .read (by decide) (by decide +kernel : _ = some [a]) hagain .done
  have hsecond : DepthFirst (includesAt? disk root) [b, a, c] [start] [b, c, a]
      [a, c, gone, b, start] :=
    .read (by decide) (by decide +kernel : _ = some [gone, c])
      (.unreadable (by decide) (by decide +kernel) hthird)
      (.visited (by decide) (.visited (by decide) .done))
  have hfirst : DepthFirst (includesAt? disk root) [entry.normalize] [] [start, b, c, a]
      [a, c, gone, b, start] :=
    .read (by decide) (by decide +kernel : _ = some [b, a, c]) hsecond .done
  exact ⟨rfl, ((hwalk _ _).mp hfirst).1.symm⟩

end SelfInclude

end InkWorkspace.Include
