import InkWorkspace.Editor.Answer
import InkWorkspace.Proofs.Source.Place
import InkWorkspace.Proofs.Story.Invariant
import InkWorkspace.Proofs.Uri

/- References are an equivalence class. A definition is looked for by its file and line, which is
   enough: a line defines one thing at most (`eq_of_sameSite`), and whatever a divert leads to is
   defined in the index (`resolve?_mem`). So the uses of a definition are the diverts that lead to it
   (`mem_usesOf_iff`), in the order of the files and of their places in them (`diverts_precede`).

   A cursor is looked up as a divert first and as a header then. No place is both, so each of the two
   ways finds what is there: a header is the subject of all its places (`subject?_of_header`), and a
   divert leads the cursor to its target (`subject?_of_divert`). -/
namespace InkWorkspace

namespace Story

/-- All knots and stitches. -/
def definitions (story : Story) : List Definition :=
  story.files.values.flatMap (·.definitions)

section Lookup

variable {story : Story} {path : Path}

/-! ## Definitions -/

theorem mem_keys_of_file? {file : InkFile} (hfile : story.file? path = some file) :
    path ∈ story.files.keys :=
  PathMap.mem_keys_iff.mpr (PathMap.contains_iff.mpr ⟨file, hfile⟩)

theorem WellFormed.exists_read (h : story.WellFormed) {file : InkFile}
    (hfile : story.file? path = some file) : ∃ text, file = InkFile.read path text := by
  obtain ⟨rfl, -, hparsed⟩ := h.files.sound hfile
  exact ⟨file.text, hparsed⟩

theorem WellFormed.mem_definitions_iff (h : story.WellFormed) {definition : Definition} :
    definition ∈ story.definitions ↔
      ∃ file, story.file? definition.path = some file ∧ definition ∈ file.definitions := by
  constructor
  · intro hmem
    obtain ⟨file, hfile, hmem⟩ := List.mem_flatMap.mp hmem
    rw [InkFile.definition_path hmem]
    exact ⟨file, h.files.mem_values_iff.mp hfile, hmem⟩
  · rintro ⟨file, hfile, hmem⟩
    rw [InkFile.definition_path hmem] at hfile
    exact List.mem_flatMap.mpr ⟨file, h.files.mem_values_iff.mpr hfile, hmem⟩

/-- A line of a file defines one thing at most. -/
theorem WellFormed.eq_of_sameSite (h : story.WellFormed) {a b : Definition}
    (ha : a ∈ story.definitions) (hb : b ∈ story.definitions) (hsite : a.sameSite b = true) :
    a = b := by
  simp only [Definition.sameSite, Bool.and_eq_true, decide_eq_true_eq] at hsite
  obtain ⟨file, hfile, ha⟩ := h.mem_definitions_iff.mp ha
  obtain ⟨other, hother, hb⟩ := h.mem_definitions_iff.mp hb
  rw [← hsite.1, hfile] at hother
  cases hother
  obtain ⟨text, rfl⟩ := h.exists_read hfile
  exact InkFile.definition_eq_of_line ha hb hsite.2

theorem WellFormed.knot_mem (h : story.WellFormed) {file : InkFile} {knot : Knot}
    (hfile : story.file? path = some file) (hknot : knot ∈ file.knots) :
    .knot path knot ∈ story.definitions := by
  obtain ⟨text, rfl⟩ := h.exists_read hfile
  refine h.mem_definitions_iff.mpr ⟨_, hfile, ?_⟩
  exact List.mem_flatMap.mpr ⟨knot, hknot, List.mem_cons_self⟩

theorem WellFormed.stitch_mem (h : story.WellFormed) {file : InkFile} {knot : Knot}
    {stitch : Stitch} (hfile : story.file? path = some file) (hknot : knot ∈ file.knots)
    (hstitch : stitch ∈ knot.stitches) : .stitch path knot stitch ∈ story.definitions := by
  obtain ⟨text, rfl⟩ := h.exists_read hfile
  refine h.mem_definitions_iff.mpr ⟨_, hfile, ?_⟩
  exact List.mem_flatMap.mpr
    ⟨knot, hknot, List.mem_cons_of_mem _ (List.mem_map_of_mem hstitch)⟩

/-! ## Items of all files -/

theorem WellFormed.mem_collect_iff (h : story.WellFormed) {α : Type} {items : InkFile → List α}
    {item : α} :
    (path, item) ∈ story.collect items ↔
      ∃ file, story.file? path = some file ∧ item ∈ items file := by
  simp only [collect, List.mem_flatMap, List.mem_map, Prod.mk.injEq]
  constructor
  · rintro ⟨file, hfile, found, hfound, rfl, rfl⟩
    exact ⟨file, h.files.mem_values_iff.mp hfile, hfound⟩
  · rintro ⟨file, hfile, hitem⟩
    obtain ⟨text, rfl⟩ := h.exists_read hfile
    exact ⟨.read path text, h.files.mem_values_iff.mpr hfile, item, hitem, rfl, rfl⟩

/-- What is in order within each file is collected in the order of the files. -/
theorem WellFormed.collect_pairwise (h : story.WellFormed) {α : Type} (items : InkFile → List α)
    {R : α → α → Prop} (hitems : ∀ path text, (items (.read path text)).Pairwise R) :
    (story.collect items).Pairwise fun a b =>
      a.1 ≠ b.1 ∧ b.1.before a.1 = false ∨ a.1 = b.1 ∧ R a.2 b.2 := by
  rw [collect, List.pairwise_flatMap]
  constructor
  · intro file hfile
    obtain ⟨text, hread⟩ := h.exists_read (h.files.mem_values_iff.mp hfile)
    have hrising : (items file).Pairwise R := by
      rw [hread]
      exact hitems file.path text
    exact List.pairwise_map.mpr (hrising.imp fun hab => Or.inr ⟨rfl, hab⟩)
  · have hfiles : story.files.values.Pairwise fun a b =>
        a.path ≠ b.path ∧ b.path.before a.path = false := by
      refine List.pairwise_map.mpr (List.Pairwise.imp_of_mem ?_ h.files.ordered)
      intro a b ha hb hab
      rwa [(h.files.sound (h.files.ordered.find?_of_mem ha)).1,
        (h.files.sound (h.files.ordered.find?_of_mem hb)).1]
    refine hfiles.imp ?_
    intro a b hab x hx y hy
    obtain ⟨_, -, rfl⟩ := List.mem_map.mp hx
    obtain ⟨_, -, rfl⟩ := List.mem_map.mp hy
    exact Or.inl hab

/-! ## Where diverts lead -/

theorem mem_of_knot? {name : String} {knot : Knot}
    (hknot : story.knot? name = some (path, knot)) :
    (path, knot) ∈ story.knots ∧ knot.name = name := by
  obtain ⟨hmem, hname⟩ := List.mem_filter.mp (List.mem_of_getLast? hknot)
  exact ⟨hmem, by simpa using hname⟩

theorem WellFormed.knot?_cases (h : story.WellFormed) {name : String} {knot : Knot}
    (hknot : story.knot? name = some (path, knot)) :
    ∃ file, story.file? path = some file ∧ knot ∈ file.knots :=
  h.mem_collect_iff.mp (mem_of_knot? hknot).1

theorem WellFormed.localStitch?_mem (h : story.WellFormed) {line : Nat} {name : String}
    {definition : Definition} (hlocal : story.localStitch? path line name = some definition) :
    definition ∈ story.definitions := by
  unfold localStitch? enclosingKnot? at hlocal
  obtain ⟨⟨found, knot⟩, henclosing, hlocal⟩ := Option.bind_eq_some_iff.mp hlocal
  obtain ⟨file, hfile, henclosing⟩ := Option.bind_eq_some_iff.mp henclosing
  obtain ⟨owner, howner, heq⟩ := Option.bind_eq_some_iff.mp henclosing
  cases heq
  obtain ⟨stitch, hstitch, heq⟩ := Option.bind_eq_some_iff.mp hlocal
  cases heq
  have hknot : knot ∈ file.knots := List.mem_reverse.mp (List.mem_of_find?_eq_some howner)
  exact h.stitch_mem hfile hknot (List.mem_of_find?_eq_some hstitch)

/-- Whatever a divert leads to is defined in the index. -/
theorem WellFormed.resolve?_mem (h : story.WellFormed) {line : Nat} {target : String}
    {definition : Definition} (hresolve : story.resolve? path line target = some definition) :
    definition ∈ story.definitions := by
  unfold resolve? at hresolve
  split at hresolve
  · rw [Option.orElse_eq_orElse, Option.orElse_eq_or, Option.or_eq_some_iff] at hresolve
    rcases hresolve with hlocal | ⟨-, hglobal⟩
    · exact h.localStitch?_mem hlocal
    · obtain ⟨⟨found, knot⟩, hknot, rfl⟩ := Option.map_eq_some_iff.mp hglobal
      obtain ⟨file, hfile, hmem⟩ := h.knot?_cases hknot
      exact h.knot_mem hfile hmem
  · split at hresolve
    · exact h.localStitch?_mem hresolve
    · obtain ⟨⟨found, knot⟩, hknot, hresolve⟩ := Option.bind_eq_some_iff.mp hresolve
      obtain ⟨stitch, hstitch, heq⟩ := Option.bind_eq_some_iff.mp hresolve
      cases heq
      obtain ⟨file, hfile, hmem⟩ := h.knot?_cases hknot
      exact h.stitch_mem hfile hmem (List.mem_of_find?_eq_some hstitch)
  · cases hresolve

/-- The uses of a definition are the diverts that lead to it. -/
theorem WellFormed.mem_usesOf_iff (h : story.WellFormed) {definition : Definition}
    (hdefinition : definition ∈ story.definitions) {use : Path × Divert} :
    use ∈ story.usesOf definition ↔
      use ∈ story.diverts ∧ story.resolve? use.1 use.2.line use.2.target = some definition := by
  simp only [usesOf, List.mem_filter, Option.any_eq_true]
  refine and_congr_right fun _ => ?_
  constructor
  · rintro ⟨found, hfound, hsite⟩
    rw [hfound, h.eq_of_sameSite (h.resolve?_mem hfound) hdefinition hsite]
  · intro hresolve
    exact ⟨definition, hresolve, by simp [Definition.sameSite]⟩

/-! ## What a cursor is on -/

theorem headerAt?_eq {text : String} (hfile : story.file? path = some (.read path text))
    (position : Position) : story.headerAt? path position =
      (InkFile.read path text).definitions.find? (·.range.contains position) := by
  simp only [headerAt?, hfile, Option.bind_eq_bind, Option.bind_some, InkFile.definitions,
    List.find?_flatMap, InkFile.read_path]
  congr 1
  funext knot
  simp only [headerIn?, List.find?_cons, Definition.range, List.find?_map, Function.comp_def]
  split <;> simp_all

theorem WellFormed.mem_diverts_iff (h : story.WellFormed) {divert : Divert} :
    (path, divert) ∈ story.diverts ↔ ∃ file, story.file? path = some file ∧ divert ∈ file.diverts :=
  h.mem_collect_iff

theorem WellFormed.subject?_of_header (h : story.WellFormed) {definition : Definition}
    (hdefinition : definition ∈ story.definitions) {position : Position}
    (hposition : definition.range.contains position = true) :
    story.subject? definition.path position = some definition := by
  obtain ⟨file, hfile, hmem⟩ := h.mem_definitions_iff.mp hdefinition
  obtain ⟨text, rfl⟩ := h.exists_read hfile
  have hdivert : story.divertAt? definition.path position = none := by
    simp only [divertAt?, hfile, Option.bind_eq_bind, Option.bind_some, List.find?_eq_none]
    intro divert hdivert
    rw [InkFile.definition_disjoint_divert hmem hdivert hposition]
    exact Bool.false_ne_true
  have hheader : story.headerAt? definition.path position = some definition := by
    rw [headerAt?_eq hfile]
    exact Range.find?_contains (InkFile.definitions_before _ text) hmem hposition
  simp only [subject?, hdivert, definitionAt?, hheader, Option.orElse_eq_orElse,
    Option.orElse_some]

theorem WellFormed.subject?_of_divert (h : story.WellFormed) {divert : Divert}
    (hdivert : (path, divert) ∈ story.diverts) {position : Position}
    (hposition : divert.range.contains position = true) :
    story.subject? path position = story.resolve? path divert.line divert.target := by
  obtain ⟨file, hfile, hmem⟩ := h.mem_diverts_iff.mp hdivert
  obtain ⟨text, rfl⟩ := h.exists_read hfile
  have hfind : story.divertAt? path position = some divert := by
    simp only [divertAt?, hfile, Option.bind_eq_bind, Option.bind_some]
    exact Range.find?_contains (Contents.diverts_before 0 _) hmem hposition
  simp only [subject?, hfind]

/-! ## The order of diverts -/

/-- The order of diverts of a project: by file, and within a file by place. -/
def Precedes (a b : Path × Divert) : Prop :=
  a.1 ≠ b.1 ∧ b.1.before a.1 = false ∨ a.1 = b.1 ∧ a.2.range.start.Before b.2.range.start

theorem WellFormed.diverts_precede (h : story.WellFormed) : story.diverts.Pairwise Precedes :=
  h.collect_pairwise (·.diverts) fun _ text => Contents.diverts_rising (Text.lines text.toList)

end Lookup

/-! ## References -/

/-- A cursor leads to a definition if it is on the name in its header or on a divert to it. -/
def LeadsTo (story : Story) (path : Path) (position : Position) (definition : Definition) : Prop :=
  path = definition.path ∧ definition.range.contains position = true ∨
    ∃ divert, (path, divert) ∈ story.diverts ∧ divert.range.contains position = true ∧
      story.resolve? path divert.line divert.target = some definition

theorem WellFormed.subject?_of_leadsTo {story : Story} (h : story.WellFormed) {path : Path}
    {position : Position} {definition : Definition} (hdefinition : definition ∈ story.definitions)
    (hcursor : story.LeadsTo path position definition) :
    story.subject? path position = some definition := by
  rcases hcursor with ⟨rfl, hposition⟩ | ⟨divert, hdivert, hposition, hresolve⟩
  · exact h.subject?_of_header hdefinition hposition
  · rw [h.subject?_of_divert hdivert hposition, hresolve]

theorem WellFormed.mem_keys_of_divert {story : Story} (h : story.WellFormed)
    {use : Path × Divert} (huse : use ∈ story.diverts) : use.1 ∈ story.files.keys := by
  obtain ⟨file, hfile, -⟩ := h.mem_diverts_iff.mp huse
  exact mem_keys_of_file? hfile

/-- The address and the range of a use. -/
def useLocation? (use : Path × Divert) : Option Location :=
  Location.at? use.1 use.2.range

theorem useLocation?_isSome {use : Path × Divert} (h : use.1.absolute = true) :
    (useLocation? use).isSome = true := by
  simp [useLocation?, Location.at?, Uri.ofPath?, h]

theorem useLocation?_ne {a b : Path × Divert} (h : Precedes a b) {location other : Location} (hlocation : useLocation? a = some location)
    (hother : useLocation? b = some other) : location ≠ other := by
  rintro rfl
  obtain ⟨uri, huri, rfl⟩ := Option.map_eq_some_iff.mp hlocation
  obtain ⟨_, hsame, heq⟩ := Option.map_eq_some_iff.mp hother
  obtain ⟨rfl, hrange⟩ := Location.mk.inj heq
  rcases h with ⟨hne, -⟩ | ⟨-, hbefore⟩
  · exact hne (Uri.ofPath?_inj huri hsame)
  · rw [hrange] at hbefore
    simp only [Position.Before] at hbefore
    omega

theorem map_eq_map_some {α β : Type} {f : α → Option β} {items : List α}
    (h : ∀ item ∈ items, (f item).isSome = true) : items.map f = (items.filterMap f).map some := by
  induction items with
  | nil => rfl
  | cons item items ih =>
    obtain ⟨value, hvalue⟩ := Option.isSome_iff_exists.mp (h item List.mem_cons_self)
    rw [List.map_cons, List.filterMap_cons_some hvalue, List.map_cons, hvalue,
      ih fun other hother => h other (List.mem_cons_of_mem item hother)]

/-- Every definition has one list of uses: the diverts that lead to it, each once and in order. All
    places of its header and of these diverts give the locations of these uses. -/
theorem references_are_uses (origin : Origin) (changes : List Edit)
    (habs : ∀ path ∈ (origin.story.edits changes).files.keys, path.absolute = true)
    (definition : Definition)
    (hdefinition : definition ∈ (origin.story.edits changes).definitions) :
    let story := origin.story.edits changes
    ∃ (uses : List (Path × Divert)) (locations : List Location),
      (∀ use, use ∈ uses ↔ use ∈ story.diverts ∧
        story.resolve? use.1 use.2.line use.2.target = some definition) ∧
      uses.Pairwise Precedes ∧
      uses.map useLocation? = locations.map some ∧
      locations.Nodup ∧
      (∀ path position, story.LeadsTo path position definition →
        story.references? path position false = some locations) ∧
      ∀ path position divert, (path, divert) ∈ story.diverts →
        divert.range.contains position = true →
        story.resolve? path divert.line divert.target = some definition →
        ∃ answer location, story.references? path position false = some answer ∧
          useLocation? (path, divert) = some location ∧ location ∈ answer := by
  intro story
  have h : story.WellFormed := edits_wellFormed (origin_wellFormed origin) changes
  have huses : ∀ use ∈ story.usesOf definition, use ∈ story.diverts :=
    fun use huse => (List.mem_filter.mp huse).1
  have hprecedes : (story.usesOf definition).Pairwise Precedes := h.diverts_precede.filter _
  have hlocated : ∀ use ∈ story.usesOf definition, (useLocation? use).isSome = true :=
    fun use huse => useLocation?_isSome (habs use.1 (h.mem_keys_of_divert (huses use huse)))
  -- The answer does not depend on the place from which one was led to the definition.
  have hanswer : ∀ path position, story.LeadsTo path position definition →
      story.references? path position false =
        some ((story.usesOf definition).filterMap useLocation?) := by
    intro path position hcursor
    simp only [references?, h.subject?_of_leadsTo hdefinition hcursor, Option.bind_eq_bind,
      Option.bind_some]
    rfl
  refine ⟨story.usesOf definition, (story.usesOf definition).filterMap useLocation?,
    fun use => h.mem_usesOf_iff hdefinition, hprecedes, map_eq_map_some hlocated, ?_, hanswer, ?_⟩
  · refine List.pairwise_filterMap.mpr (hprecedes.imp ?_)
    intro a b hab location hlocation other hother
    exact useLocation?_ne hab hlocation hother
  · intro path position divert hdivert hposition hresolve
    have huse := (h.mem_usesOf_iff hdefinition).mpr ⟨hdivert, hresolve⟩
    obtain ⟨location, hlocation⟩ := Option.isSome_iff_exists.mp (hlocated _ huse)
    exact ⟨_, location, hanswer path position (Or.inr ⟨divert, hdivert, hposition, hresolve⟩),
      hlocation, List.mem_filterMap.mpr ⟨_, huse, hlocation⟩⟩

/-! ## Stitches of one name -/

namespace SharedName

/-- A file in which two knots have a stitch of the same name. -/
def path : Path := .ofString "/a.ink"

def text : String := "== a\n= s\n-> s\n== b\n= s\n-> s\n-> a.s\n"

def changes : List Edit := [.update .empty path text]

/-- The stitch of the first knot. -/
def first : Stitch := ⟨⟨"s", [], 1, ⟨⟨1, 2⟩, ⟨1, 3⟩⟩⟩, "a"⟩

def owner : Knot := ⟨⟨"a", [], 0, ⟨⟨0, 3⟩, ⟨0, 4⟩⟩⟩, .knot, [first]⟩

/-- The divert to the first stitch from outside its knot. -/
def divert : Divert := ⟨"a.s", 6, ⟨⟨6, 3⟩, ⟨6, 6⟩⟩⟩

def story : Story :=
  ⟨.root, ⟨[(path, .read path text)]⟩, .build [.read path text] .root⟩

theorem edits_changes : (Origin.empty .root).story.edits changes = story := by
  have htargets : (InkFile.read path text).targets (Story.empty .root).root = [] := by
    decide +kernel
  exact (empty_wellFormed .root).update_of_targets_nil .empty path text rfl htargets

/-- The header of the first stitch and the divert in the second knot give the same answer. -/
theorem references_of_first_stitch :
    (∀ path ∈ ((Origin.empty .root).story.edits changes).files.keys, path.absolute = true) ∧
      .stitch path owner first ∈ ((Origin.empty .root).story.edits changes).definitions ∧
      ∃ locations, story.references? path ⟨1, 3⟩ false = some locations ∧
        story.references? path ⟨6, 5⟩ false = some locations ∧ locations.Nodup := by
  have habs : ∀ path ∈ ((Origin.empty .root).story.edits changes).files.keys,
      path.absolute = true := by
    rw [edits_changes]
    decide +kernel
  have hdefinition : .stitch path owner first ∈
      ((Origin.empty .root).story.edits changes).definitions := by
    rw [edits_changes]
    decide +kernel
  obtain ⟨uses, locations, -, -, -, hnodup, hanswer, -⟩ :=
    references_are_uses (.empty .root) changes habs _ hdefinition
  rw [edits_changes] at hanswer
  have hdivert : (path, divert) ∈ story.diverts := by decide +kernel
  have hresolve : story.resolve? path 6 "a.s" = some (.stitch path owner first) := by
    decide +kernel
  exact ⟨habs, hdefinition, locations, hanswer path ⟨1, 3⟩ (Or.inl ⟨rfl, by decide⟩),
    hanswer path ⟨6, 5⟩ (Or.inr ⟨divert, hdivert, by decide, hresolve⟩), hnodup⟩

end SharedName

end Story

end InkWorkspace
