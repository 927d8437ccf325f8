import InkWorkspace.Proofs.Path

/- What following a path comes to. A path leads up by a number of levels and from there down by names:
   its course. The course of two paths in a row is read off their courses (`of_append`): what the second
   one climbs takes back names of the first one as long as there are any.

   Folding a path keeps its names, but of the levels that it climbs only whether their number is odd
   (`foldl_fold`), since a `..` takes back the `..` in front of it. From the root nothing is lost by
   that, as all climbing ends there. So the normal form of a path is canonical and an absolute path and
   its normal form lead to the same place (`normalize_canonical`). A relative path is different: folded
   on its own it still leads to the same places if it climbs at most one level, and to others if it
   climbs more (`resolve_normalize_iff_climb`). -/
namespace InkWorkspace

open InkWorkspace.Path (Named fold)

/-- So many levels up, and then down by names. -/
structure Course where
  climb : Nat
  names : List Component
  deriving Repr, DecidableEq

namespace Course

/-- The course that goes nowhere. -/
def start : Course := ⟨0, []⟩

/-- Going on by one component: `..` takes back the last name, and climbs if there is none. -/
def go (course : Course) : Component → Course
  | .here => course
  | .up =>
    if course.names.isEmpty then ⟨course.climb + 1, []⟩
    else ⟨course.climb, course.names.dropLast⟩
  | name => ⟨course.climb, course.names ++ [name]⟩

/-- The course of components. -/
def of (parts : List Component) : Course :=
  parts.foldl go start

/-- Two courses in a row. -/
def followedBy (front back : Course) : Course where
  climb := front.climb + (back.climb - front.names.length)
  names := front.names.take (front.names.length - back.climb) ++ back.names

theorem go_named {c : Component} (h : Named c) (course : Course) :
    course.go c = ⟨course.climb, course.names ++ [c]⟩ := by
  cases c with
  | here => exact absurd rfl h.1
  | up => exact absurd rfl h.2
  | name file => rfl

theorem go_up_of_nil {course : Course} (h : course.names = []) :
    course.go .up = ⟨course.climb + 1, []⟩ := by
  simp [go, h]

theorem go_up_of_ne_nil {course : Course} (h : course.names ≠ []) :
    course.go .up = ⟨course.climb, course.names.dropLast⟩ := by
  simp [go, h]

theorem component_cases (c : Component) : c = .here ∨ c = .up ∨ Named c := by
  cases c <;> simp [Named]

theorem followedBy_start (front : Course) : front.followedBy start = front := by
  simp [followedBy, start]

/-- A `..` behind two courses is the second one's: it takes back a name of the second course, else one of
    the first course, else it climbs. -/
theorem followedBy_go_up (front back : Course) :
    (front.followedBy back).go .up = front.followedBy (back.go .up) := by
  by_cases hback : back.names = []
  · by_cases hclimb : front.names.length ≤ back.climb
    · have hnone : (front.followedBy back).names = [] := by
        simp [followedBy, hback, Nat.sub_eq_zero_of_le hclimb]
      have hnext : front.names.length - (back.climb + 1) = 0 := by omega
      rw [go_up_of_nil hnone, go_up_of_nil hback]
      simp only [followedBy, hnext, List.take_zero, List.append_nil, mk.injEq, and_true]
      omega
    · have hsome : (front.followedBy back).names ≠ [] := by
        rw [followedBy, hback, List.append_nil, ← List.length_pos_iff, List.length_take]
        omega
      rw [go_up_of_ne_nil hsome, go_up_of_nil hback]
      simp only [followedBy, hback, List.append_nil, mk.injEq]
      constructor
      · omega
      · rw [List.dropLast_eq_take, List.take_take, List.length_take]
        congr 1
        omega
  · have hnames : (front.followedBy back).names ≠ [] := by simp [followedBy, hback]
    rw [go_up_of_ne_nil hnames, go_up_of_ne_nil hback]
    simp only [followedBy, List.dropLast_append_of_ne_nil hback]

theorem followedBy_go (front back : Course) (c : Component) :
    (front.followedBy back).go c = front.followedBy (back.go c) := by
  rcases component_cases c with rfl | rfl | hc
  · rfl
  · exact followedBy_go_up front back
  · simp only [go_named hc, followedBy, List.append_assoc]

theorem foldl_go_followedBy (front back : Course) (parts : List Component) :
    parts.foldl go (front.followedBy back) = front.followedBy (parts.foldl go back) := by
  induction parts generalizing back with
  | nil => rfl
  | cons c parts ih => rw [List.foldl_cons, followedBy_go, ih, List.foldl_cons]

theorem foldl_go (front : Course) (parts : List Component) :
    parts.foldl go front = front.followedBy (of parts) := by
  rw [of, ← foldl_go_followedBy, followedBy_start]

theorem of_append (front back : List Component) :
    of (front ++ back) = (of front).followedBy (of back) := by
  rw [← foldl_go, of, List.foldl_append]
  rfl

theorem of_named {names : List Component} (h : ∀ c ∈ names, Named c) : of names = ⟨0, names⟩ := by
  have run : ∀ (names : List Component) (course : Course), (∀ c ∈ names, Named c) →
      names.foldl go course = ⟨course.climb, course.names ++ names⟩ := by
    intro names
    induction names with
    | nil => intro course _; simp
    | cons c names ih =>
      intro course h
      rw [List.foldl_cons, go_named (h c List.mem_cons_self),
        ih _ fun d hd => h d (List.mem_cons_of_mem c hd)]
      simp
  exact run names start h

theorem of_replicate_up (count : Nat) : of (List.replicate count .up) = ⟨count, []⟩ := by
  induction count with
  | zero => rfl
  | succ count ih =>
    rw [List.replicate_succ', of, List.foldl_append, ← of, ih]
    rfl

/-- The course leads down by names only. -/
def Descends (course : Course) : Prop :=
  ∀ c ∈ course.names, Named c

theorem Descends.go {course : Course} (h : course.Descends) (c : Component) :
    (course.go c).Descends := by
  rcases component_cases c with rfl | rfl | hc
  · exact h
  · by_cases hnames : course.names = []
    · rw [go_up_of_nil hnames]
      intro d hd
      cases hd
    · rw [go_up_of_ne_nil hnames]
      exact fun d hd => h d ((List.dropLast_sublist _).subset hd)
  · rw [go_named hc]
    intro d hd
    rcases List.mem_append.mp hd with hd | hd
    · exact h d hd
    · rw [List.mem_singleton.mp hd]
      exact hc

theorem descends_of (parts : List Component) : (of parts).Descends := by
  have run : ∀ (parts : List Component) (course : Course), course.Descends →
      (parts.foldl Course.go course).Descends := by
    intro parts
    induction parts with
    | nil => intro course h; exact h
    | cons c parts ih => intro course h; exact ih _ (h.go c)
  exact run parts start fun c hc => absurd hc List.not_mem_nil

/-! ## Folding -/

/-- What folding leaves of a course: the names, and one `..` if the number of levels is odd. -/
def normal (course : Course) : List Component :=
  List.replicate (course.climb % 2) .up ++ course.names

theorem fold_normal (course : Course) (c : Component) :
    fold course.normal c = (course.go c).normal := by
  rcases component_cases c with rfl | rfl | hc
  · rfl
  · by_cases hnames : course.names = []
    · rw [go_up_of_nil hnames]
      -- The last `..` that is left is taken back, and if there is none the new one stays.
      rcases Nat.mod_two_eq_zero_or_one course.climb with hclimb | hclimb
      · have hnext : (course.climb + 1) % 2 = 1 := by omega
        simp [fold, normal, hnames, hclimb, hnext]
      · have hnext : (course.climb + 1) % 2 = 0 := by omega
        simp [fold, normal, hnames, hclimb, hnext]
    · rw [go_up_of_ne_nil hnames]
      simp [fold, normal, hnames, List.dropLast_append_of_ne_nil]
  · rw [Path.fold_named hc, go_named hc]
    simp [normal]

theorem foldl_fold_normal (course : Course) (parts : List Component) :
    parts.foldl fold course.normal = (parts.foldl go course).normal := by
  induction parts generalizing course with
  | nil => rfl
  | cons c parts ih => rw [List.foldl_cons, fold_normal, ih, List.foldl_cons]

theorem foldl_fold (parts : List Component) : parts.foldl fold [] = (of parts).normal :=
  foldl_fold_normal start parts

theorem of_normal (parts : List Component) :
    of (of parts).normal = ⟨(of parts).climb % 2, (of parts).names⟩ := by
  rw [normal, of_append, of_replicate_up, of_named (descends_of parts)]
  simp [followedBy]

/-- Folding leaves the same of two paths exactly if they have the same names and climb alike. -/
theorem normal_eq_iff {front back : List Component} :
    (of front).normal = (of back).normal ↔
      (of front).climb % 2 = (of back).climb % 2 ∧ (of front).names = (of back).names := by
  constructor
  · intro h
    have hcourse := congrArg of h
    rw [of_normal, of_normal] at hcourse
    exact mk.inj hcourse
  · intro h
    rw [normal, normal, h.1, h.2]

end Course

namespace Path

/-- The course of a path. -/
def course (p : Path) : Course :=
  .of p.parts

/-! ## Places -/

/-- One step from a place that is given by the names that lead to it from the root: `..` drops the last
    name, and at the root there is none. -/
def follow (place : List Component) : Component → List Component
  | .here => place
  | .up => place.dropLast
  | name => place ++ [name]

/-- The place that a path leads to from the root. -/
def place (p : Path) : List Component :=
  p.parts.foldl follow []

theorem follow_names (course : Course) (c : Component) :
    follow course.names c = (course.go c).names := by
  rcases Course.component_cases c with rfl | rfl | hc
  · rfl
  · by_cases hnames : course.names = []
    · rw [Course.go_up_of_nil hnames, hnames]
      rfl
    · rw [Course.go_up_of_ne_nil hnames]
      rfl
  · rw [Course.go_named hc]
    cases c with
    | here => exact absurd rfl hc.1
    | up => exact absurd rfl hc.2
    | name file => rfl

theorem place_eq (p : Path) : p.place = p.course.names := by
  have run : ∀ (parts : List Component) (course : Course),
      parts.foldl follow course.names = (parts.foldl Course.go course).names := by
    intro parts
    induction parts with
    | nil => intro course; rfl
    | cons c parts ih =>
      intro course
      rw [List.foldl_cons, follow_names, ih, List.foldl_cons]
  exact run p.parts .start

/-! ## Normal forms -/

/-- The path of folded components. -/
def closed (absolute : Bool) (parts : List Component) : Path :=
  if parts.isEmpty && !absolute then ⟨false, [.here]⟩ else ⟨absolute, parts⟩

theorem normalize_eq (p : Path) : p.normalize = closed p.absolute p.course.normal := by
  unfold normalize
  rw [Course.foldl_fold]
  rfl

theorem course_closed (absolute : Bool) (parts : List Component) :
    (closed absolute parts).course = .of parts := by
  unfold closed
  split
  · next h =>
    obtain rfl : parts = [] := by simp_all
    rfl
  · rfl

/-- Of the levels that a path climbs, its normal form climbs none or one. -/
theorem course_normalize (p : Path) :
    p.normalize.course = ⟨p.course.climb % 2, p.course.names⟩ := by
  rw [normalize_eq, course_closed]
  exact Course.of_normal p.parts

theorem of_filter_here (parts : List Component) :
    Course.of (parts.filter (· ≠ .here)) = .of parts := by
  have run : ∀ (parts : List Component) (course : Course),
      (parts.filter (· ≠ .here)).foldl Course.go course = parts.foldl Course.go course := by
    intro parts
    induction parts with
    | nil => intro course; rfl
    | cons c parts ih =>
      intro course
      by_cases hc : c = .here
      · subst hc
        exact ih course
      · rw [List.filter_cons_of_pos (by simpa using hc), List.foldl_cons, List.foldl_cons, ih]
  exact run parts .start

theorem course_join (p : Path) {q : Path} (hq : q.absolute = false) :
    (p.join q).course = p.course.followedBy q.course := by
  unfold join course
  rw [hq]
  split
  · next h => cases h
  · split
    · rw [Course.of_append, of_filter_here]
    · next h =>
      have hparts : Course.of p.parts = .start := by simp_all [Course.of]
      simp [hparts, Course.followedBy, Course.start]

theorem normalize_join (p : Path) {q : Path} (hq : q.absolute = false) :
    (p.join q).normalize = closed p.absolute (p.course.followedBy q.course).normal := by
  have habsolute : (p.join q).absolute = p.absolute := by
    unfold join
    rw [hq]
    split
    · next h => cases h
    · split
      · rfl
      · next h => simp_all
  rw [normalize_eq, habsolute, course_join p hq]

/-- Two courses in a row leave the same if of the first one only the rest of its climbing is lost. -/
theorem normal_followedBy_mod (front back : Course) :
    ((⟨front.climb % 2, front.names⟩ : Course).followedBy back).normal =
      (front.followedBy back).normal := by
  have hclimb : (front.climb % 2 + (back.climb - front.names.length)) % 2 =
      (front.climb + (back.climb - front.names.length)) % 2 := by omega
  simp only [Course.normal, Course.followedBy, hclimb]

/-- The normal form stands for the path in front of any other one, also if both are relative. -/
theorem normalize_join_normalize (p q : Path) :
    (p.normalize.join q).normalize = (p.join q).normalize := by
  cases hq : q.absolute with
  | true => simp only [join, hq, if_true]
  | false =>
    rw [normalize_join _ hq, normalize_join _ hq, course_normalize, normalize_absolute,
      normal_followedBy_mod]

/-- From the root a path and its normal form lead to the same place. -/
theorem place_normalize (p : Path) : p.normalize.place = p.place := by
  calc p.normalize.place = p.normalize.course.names := place_eq p.normalize
    _ = p.course.names := by rw [course_normalize]
    _ = p.place := (place_eq p).symm

theorem Folded.here_not_mem {parts : List Component} (h : Folded parts) : .here ∉ parts := by
  obtain ⟨names, hnames, rfl | rfl⟩ := h
  · exact fun hmem => (hnames _ hmem).1 rfl
  · intro hmem
    rcases List.mem_cons.mp hmem with heq | hmem
    · cases heq
    · exact (hnames _ hmem).1 rfl

theorem Folded.up_not_mem_tail {parts : List Component} (h : Folded parts) : .up ∉ parts.tail := by
  obtain ⟨names, hnames, rfl | rfl⟩ := h
  · exact fun hmem => (hnames _ (List.mem_of_mem_tail hmem)).2 rfl
  · exact fun hmem => (hnames _ hmem).2 rfl

/-- Normalizing gives each path one form. The form is its own, and stands for the path in front of any
    other one. It is absolute if the path is, has a `.` only if it is no more than that, and a `..` only
    in front. From the root it leads where the path leads. -/
theorem normalize_canonical (p : Path) :
    p.normalize.normalize = p.normalize ∧
    (∀ q : Path, (p.normalize.join q).normalize = (p.join q).normalize) ∧
    p.normalize.absolute = p.absolute ∧
    (p.normalize = ⟨false, [.here]⟩ ∨ .here ∉ p.normalize.parts) ∧
    .up ∉ p.normalize.parts.tail ∧
    p.normalize.place = p.place := by
  have hfolded := folded_foldl p.parts
  refine ⟨normalize_normalize p, normalize_join_normalize p, normalize_absolute p, ?_, ?_,
    place_normalize p⟩
  · unfold normalize
    dsimp only
    split
    · exact Or.inl rfl
    · exact Or.inr hfolded.here_not_mem
  · unfold normalize
    dsimp only
    split
    · exact List.not_mem_nil
    · exact hfolded.up_not_mem_tail

/-! ## Relative paths -/

section Relative

variable {b p q : Path}

/-- Seen from `b`, a relative path drops as many names of the place as it climbs levels, and adds its
    own. -/
theorem place_resolve (hp : p.absolute = false) :
    (b.resolve p).place = b.place.take (b.place.length - p.course.climb) ++ p.course.names := by
  calc (b.resolve p).place = (b.join p).place := place_normalize (b.join p)
    _ = (b.course.followedBy p.course).names := by rw [place_eq, course_join b hp]
    _ = b.place.take (b.place.length - p.course.climb) ++ p.course.names := by rw [place_eq]; rfl

theorem resolve_eq_iff (hb : b.absolute = true) (hp : p.absolute = false) (hq : q.absolute = false) :
    b.resolve p = b.resolve q ↔
      (b.course.followedBy p.course).climb % 2 = (b.course.followedBy q.course).climb % 2 ∧
        (b.course.followedBy p.course).names = (b.course.followedBy q.course).names := by
  have hcourse (r : Path) : b.course.followedBy r.course = .of (b.parts ++ r.parts) :=
    (Course.of_append b.parts r.parts).symm
  rw [resolve, resolve, normalize_join b hp, normalize_join b hq, hcourse, hcourse,
    ← Course.normal_eq_iff]
  simp [closed, hb]

/-- A relative path, seen from an absolute one, drops as many names as it climbs levels, as far as there
    are any, and adds its own. Its normal form climbs at most one level, so it drops fewer names if the
    path climbs more. -/
theorem resolve_normalize_iff_climb (hb : b.absolute = true) (hp : p.absolute = false) :
    (b.resolve p).place = b.place.take (b.place.length - p.course.climb) ++ p.course.names ∧
    (b.resolve p.normalize).place =
      b.place.take (b.place.length - p.course.climb % 2) ++ p.course.names ∧
    (b.resolve p.normalize = b.resolve p ↔
      p.course.climb ≤ 1 ∨ b.place.length ≤ p.course.climb % 2) := by
  have hnormal : p.normalize.absolute = false := (normalize_absolute p).trans hp
  refine ⟨place_resolve hp, ?_, ?_⟩
  · rw [place_resolve hnormal, course_normalize]
  · rw [resolve_eq_iff hb hnormal hp, course_normalize, place_eq]
    simp only [Course.followedBy, List.append_cancel_right_eq, List.take_eq_take_iff]
    omega

/-- A path that climbs one level and is folded to fewer components. -/
theorem resolve_normalize_one_level :
    (ofString "/a/b").absolute = true ∧ (ofString "x/../../c").absolute = false ∧
      (ofString "/a/b").resolve (ofString "x/../../c").normalize =
        (ofString "/a/b").resolve (ofString "x/../../c") :=
  have hb : (ofString "/a/b").absolute = true := by decide +kernel
  have hp : (ofString "x/../../c").absolute = false := by decide +kernel
  ⟨hb, hp, (resolve_normalize_iff_climb hb hp).2.2.mpr (Or.inl (by decide +kernel))⟩

/-- Two levels up from a folder in a folder is the root, but folded on its own the way there is `.`, and
    leads to the inner folder. -/
theorem two_levels_fold_away :
    (ofString "/a/b").absolute = true ∧ (ofString "../..").absolute = false ∧
      (ofString "../..").normalize = ofString "." ∧
      (ofString "/a/b").resolve (ofString "../..") = .root ∧
      (ofString "/a/b").resolve (ofString "../..").normalize = ofString "/a/b" ∧
      ofString "/a/b" ≠ .root := by
  decide +kernel

end Relative

end Path

end InkWorkspace
