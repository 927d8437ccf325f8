import InkWorkspace.Diagnostic
import InkWorkspace.Proofs.Source.Ranges
import InkWorkspace.Proofs.Story.Completion

/- Warnings about hidden knots. Of the knots of one name the last one wins, by path and then by line, and
   the others are hidden. They are found in two ways: `knot?` picks the last knot of a name, and
   `shadowedKnots` cuts all knots into groups of one name, drops the last of each group, and sorts what
   is left. Both agree: the hidden knots are those that `knot?` does not answer, in the order of the
   files and lines, each with the one that it does answer, in whatever order the groups come
   (`shadowedAmong_eq`).

   A file shows one warning for each of its hidden knots, and no others (`mem_warnings_iff`). So the
   warnings tell where a divert to the name leads from places without a stitch of that name
   (`shadowed_knots_truth`). -/
namespace InkWorkspace

/-! ## Groups -/

section Groups

variable {α β : Type} [DecidableEq β]

theorem nodup_eraseDups (items : List β) : items.eraseDups.Nodup := by
  match items with
  | [] => exact List.Pairwise.nil
  | first :: rest =>
    rw [List.eraseDups_cons, List.nodup_cons, List.mem_eraseDups]
    exact ⟨by simp, nodup_eraseDups _⟩
termination_by items.length
decreasing_by exact Nat.lt_succ_of_le (List.length_filter_le _ _)

theorem flatten_groups (key : α → β) (items : List α) {keys : List β} (hkeys : keys.Nodup) :
    ((keys.map fun k => items.filter (key · == k)).flatten).Perm
      (items.filter (key · ∈ keys)) := by
  induction hkeys with
  | nil => simp
  | @cons k rest hk _ ih =>
    -- Of the items that have one of the keys, those of the first key are one group.
    have hfirst : (items.filter (key · ∈ k :: rest)).filter (key · == k) =
        items.filter (key · == k) := by
      rw [List.filter_filter]
      refine List.filter_congr fun item _ => ?_
      by_cases heq : key item = k <;> simp [heq]
    have hrest : (items.filter (key · ∈ k :: rest)).filter (fun item => !(key item == k)) =
        items.filter (key · ∈ rest) := by
      rw [List.filter_filter]
      refine List.filter_congr fun item _ => ?_
      by_cases heq : key item = k
      · have hnotMem : k ∉ rest := fun hmem => hk k hmem rfl
        simp [heq, hnotMem]
      · simp [heq]
    have hsplit := List.filter_append_perm (key · == k) (items.filter (key · ∈ k :: rest))
    rw [hfirst, hrest] at hsplit
    exact (ih.append_left _).trans hsplit

end Groups

/-! ## The order of definitions -/

namespace Definition

variable {a b c : Definition}

theorem before_iff : a.before b = true ↔
    a.path.before b.path = true ∨ a.path = b.path ∧ a.line < b.line := by
  simp [before]

theorem before_iff_of_path_eq (h : a.path = b.path) : a.before b = true ↔ a.line < b.line := by
  simp [before_iff, h, Path.before_irrefl]

theorem before_of_path_ne (h : a.path ≠ b.path) : a.before b = a.path.before b.path := by
  simp [before, h]

theorem before_irrefl (a : Definition) : a.before a = false := by
  simp [before, Path.before_irrefl]

theorem before_asymm (h : a.before b = true) : b.before a = false := by
  by_cases heq : a.path = b.path
  · rw [before_iff_of_path_eq heq] at h
    rw [← Bool.not_eq_true, before_iff_of_path_eq heq.symm]
    exact Nat.lt_asymm h
  · rw [before_of_path_ne heq] at h
    rw [before_of_path_ne (Ne.symm heq)]
    exact Path.before_asymm h

theorem before_eq_false_iff : b.before a = false ↔
    a.path.before b.path = true ∨ a.path = b.path ∧ a.line ≤ b.line := by
  by_cases heq : a.path = b.path
  · rw [← Bool.not_eq_true, before_iff_of_path_eq heq.symm, Nat.not_lt]
    simp [heq, Path.before_irrefl]
  · rw [before_of_path_ne (Ne.symm heq), or_iff_left fun h => heq h.1]
    constructor
    · intro hbehind
      exact (Path.before_total heq).resolve_right (by simp [hbehind])
    · exact Path.before_asymm

theorem notBefore_trans (hab : b.before a = false) (hbc : c.before b = false) :
    c.before a = false := by
  rw [before_eq_false_iff] at hab hbc ⊢
  rcases hab with hab | ⟨heq, hab⟩
  · rcases hbc with hbc | ⟨hsame, -⟩
    · exact Or.inl (Path.before_trans hab hbc)
    · exact Or.inl (hsame ▸ hab)
  · rcases hbc with hbc | ⟨hsame, hbc⟩
    · exact Or.inl (heq ▸ hbc)
    · exact Or.inr ⟨heq.trans hsame, Nat.le_trans hab hbc⟩

end Definition

namespace Story

section Lookup

variable {story : Story} {path : Path} {knot : Knot}

/-! ## Groups of one name -/

theorem WellFormed.knots_before (h : story.WellFormed) : story.knots.Pairwise fun a b =>
    (Definition.knot a.1 a.2).before (.knot b.1 b.2) = true := by
  refine h.knots_ordered.imp fun {a b} hab => Definition.before_iff.mpr ?_
  rcases hab with ⟨hne, hbefore⟩ | ⟨heq, hends⟩
  · exact Or.inl ((Path.before_total hne).resolve_right (by simp [hbefore]))
  · exact Or.inr ⟨heq, hends.1⟩

theorem WellFormed.knots_nodup (h : story.WellFormed) : story.knots.Nodup :=
  h.knots_before.imp fun {a b} hab heq => by
    rw [heq, Definition.before_irrefl] at hab
    cases hab

theorem knotsByName_flatten (story : Story) : story.knotsByName.flatten.Perm story.knots := by
  have hgroups := flatten_groups (fun entry : Path × Knot => entry.2.name) story.knots
    (nodup_eraseDups (story.knots.map fun entry => entry.2.name))
  rwa [List.filter_eq_self.mpr] at hgroups
  intro entry hentry
  simpa using ⟨entry.1, entry.2, hentry, rfl⟩

/-- What the list of hidden knots says of a knot: nothing if the knot wins, and else which one does. -/
def shadowed? (story : Story) (entry : Path × Knot) : Option (Definition × Definition) :=
  (story.knot? entry.2.name).bind fun winner =>
    if entry = winner then none else some (.knot entry.1 entry.2, .knot winner.1 winner.2)

theorem hiddenIn_eq_nil {group : List (Path × Knot)} (h : ¬ group.length > 1) :
    hiddenIn group = [] := by
  match group, h with
  | [], _ => rfl
  | [_], _ => rfl
  | _ :: _ :: _, h => exact absurd h (by simp)

/-- Groups of one knot hide none, so leaving them out first changes nothing. -/
theorem flatMap_hiddenIn (groups : List (List (Path × Knot))) :
    (groups.filter (·.length > 1)).flatMap hiddenIn = groups.flatMap hiddenIn := by
  induction groups with
  | nil => rfl
  | cons group rest ih =>
    by_cases hlength : group.length > 1
    · rw [List.filter_cons_of_pos (by simpa using hlength), List.flatMap_cons, List.flatMap_cons, ih]
    · rw [List.filter_cons_of_neg (by simpa using hlength), List.flatMap_cons, ih,
        hiddenIn_eq_nil hlength, List.nil_append]

theorem hiddenIn_concat (init : List (Path × Knot)) (winner : Path × Knot) :
    hiddenIn (init ++ [winner]) =
      init.map fun entry => (.knot entry.1 entry.2, .knot winner.1 winner.2) := by
  simp [hiddenIn]

/-- A group hides the knots that its name does not stand for. -/
theorem hiddenIn_eq {group : List (Path × Knot)} (hnodup : group.Nodup)
    (hwins : ∀ entry ∈ group, story.knot? entry.2.name = group.getLast?) :
    hiddenIn group = group.filterMap story.shadowed? := by
  rcases List.eq_nil_or_concat group with rfl | ⟨init, winner, rfl⟩
  · rfl
  · simp only [List.concat_eq_append, List.getLast?_concat] at hnodup hwins ⊢
    have hlast : story.shadowed? winner = none := by
      simp [shadowed?, hwins winner (by simp)]
    have hothers : init.filterMap story.shadowed? = hiddenIn (init ++ [winner]) := by
      rw [hiddenIn_concat, ← List.filterMap_eq_map']
      refine List.filterMap_congr fun entry hentry => ?_
      have hne : entry ≠ winner :=
        (List.nodup_append.mp hnodup).2.2 entry hentry winner List.mem_cons_self
      simp [shadowed?, hwins entry (List.mem_append_left _ hentry), hne]
    simp [hothers, hlast]

theorem mem_knotsByName {group : List (Path × Knot)} (h : group ∈ story.knotsByName) :
    ∃ name, group = story.knots.filter fun (_, knot) => knot.name == name := by
  obtain ⟨name, -, rfl⟩ := List.mem_map.mp h
  exact ⟨name, rfl⟩

/-! ## The hidden knots -/

theorem shadowed?_eq_some_iff {entry : Path × Knot} {shadowed winner : Definition} :
    story.shadowed? entry = some (shadowed, winner) ↔ shadowed = .knot entry.1 entry.2 ∧
      ∃ winnerPath winning, winner = .knot winnerPath winning ∧
        story.knot? entry.2.name = some (winnerPath, winning) ∧ entry ≠ (winnerPath, winning) := by
  rw [shadowed?, Option.bind_eq_some_iff]
  constructor
  · rintro ⟨⟨winnerPath, winning⟩, hwinner, hsome⟩
    split at hsome
    · cases hsome
    · next hne =>
      cases hsome
      exact ⟨rfl, winnerPath, winning, rfl, hwinner, hne⟩
  · rintro ⟨rfl, winnerPath, winning, rfl, hwinner, hne⟩
    exact ⟨_, hwinner, if_neg hne⟩

/-- In whatever order the groups come, what the last ones of their groups hide is what no name stands
    for, in the order of the files and lines. -/
theorem WellFormed.shadowedAmong_eq (h : story.WellFormed) {groups : List (List (Path × Knot))}
    (hgroups : groups.Perm story.knotsByName) :
    shadowedAmong groups = story.knots.filterMap story.shadowed? := by
  -- Group by group, what the last one hides is what `shadowed?` says of the members.
  have hhidden : groups.flatMap hiddenIn = groups.flatten.filterMap story.shadowed? := by
    rw [List.filterMap_flatten, ← List.flatMap_def]
    refine List.flatMap_congr fun group hgroup => ?_
    obtain ⟨name, rfl⟩ := mem_knotsByName (hgroups.mem_iff.mp hgroup)
    refine hiddenIn_eq (h.knots_nodup.filter _) fun entry hentry => ?_
    have hname : entry.2.name = name := by simpa using (List.mem_filter.mp hentry).2
    rw [hname]
    rfl
  have hperm : (groups.flatMap hiddenIn).Perm (story.knots.filterMap story.shadowed?) := by
    rw [hhidden]
    exact (hgroups.flatten.trans story.knotsByName_flatten).filterMap _
  -- So the sorted list is the one order of these in which they rise, and the knots stand in it already.
  rw [shadowedAmong, flatMap_hiddenIn]
  refine mergeSort_eq_of_rising (List.pairwise_mergeSort ?_ ?_ _) hperm ?_
  · intro a b c hab hbc
    rw [Bool.not_eq_true'] at hab hbc ⊢
    exact Definition.notBefore_trans hab hbc
  · intro a b
    cases hba : b.1.before a.1 with
    | false => rfl
    | true => rw [Definition.before_asymm hba]; rfl
  · refine List.pairwise_filterMap.mpr (h.knots_before.imp ?_)
    intro a b hab x hx y hy
    rw [(shadowed?_eq_some_iff.mp hx).1, (shadowed?_eq_some_iff.mp hy).1, hab,
      Definition.before_asymm hab]
    exact ⟨rfl, rfl⟩

theorem WellFormed.shadowedKnots_eq (h : story.WellFormed) :
    story.shadowedKnots = story.knots.filterMap story.shadowed? :=
  h.shadowedAmong_eq (List.Perm.refl _)

/-! ## Warnings -/

/-- The warning on a knot that another one hides. -/
def shadowWarning (story : Story) (knot : Knot) (winnerPath : Path) (winner : Knot) : Diagnostic :=
  ⟨knot.range, .warning, "Duplicate knot '" ++ knot.name ++ "': the definition in " ++
    story.display winnerPath ++ " line " ++ toString (winner.line + 1) ++ " is used"⟩

/-- A file shows a warning on that range. -/
def Warns (story : Story) (path : Path) (range : Range) : Prop :=
  ∃ d ∈ story.graphDiagnostics path, d.severity = .warning ∧ d.range = range

theorem severity_of_mem_cycleDiagnostics {d : Diagnostic} (hd : d ∈ story.cycleDiagnostics path) :
    d.severity = .information := by
  obtain ⟨⟨number, cycle⟩, -, hsome⟩ := List.mem_filterMap.mp hd
  obtain ⟨line, -, heq⟩ := Option.bind_eq_some_iff.mp hsome
  cases heq
  rfl

theorem WellFormed.mem_shadowDiagnostics_iff (h : story.WellFormed) {d : Diagnostic} :
    d ∈ story.shadowDiagnostics path ↔ ∃ knot winnerPath winner, (path, knot) ∈ story.knots ∧
      story.knot? knot.name = some (winnerPath, winner) ∧ (path, knot) ≠ (winnerPath, winner) ∧
        d = story.shadowWarning knot winnerPath winner := by
  simp only [shadowDiagnostics, h.shadowedKnots_eq, List.mem_map, List.mem_filter,
    List.mem_filterMap, Prod.exists, shadowed?_eq_some_iff, decide_eq_true_eq]
  constructor
  · rintro ⟨_, _, ⟨⟨owner, knot, hknot, rfl, winnerPath, winner, rfl, hwinner, hne⟩, rfl⟩, rfl⟩
    exact ⟨knot, winnerPath, winner, hknot, hwinner, hne, rfl⟩
  · rintro ⟨knot, winnerPath, winner, hknot, hwinner, hne, rfl⟩
    exact ⟨_, _, ⟨⟨path, knot, hknot, rfl, winnerPath, winner, rfl, hwinner, hne⟩, rfl⟩, rfl⟩

theorem WellFormed.mem_warnings_iff (h : story.WellFormed) {d : Diagnostic} :
    d ∈ story.graphDiagnostics path ∧ d.severity = .warning ↔
      ∃ knot winnerPath winner, (path, knot) ∈ story.knots ∧
        story.knot? knot.name = some (winnerPath, winner) ∧ (path, knot) ≠ (winnerPath, winner) ∧
          d = story.shadowWarning knot winnerPath winner := by
  rw [← h.mem_shadowDiagnostics_iff, graphDiagnostics, List.mem_append]
  constructor
  · rintro ⟨hshadow | hcycle, hwarning⟩
    · exact hshadow
    · rw [severity_of_mem_cycleDiagnostics hcycle] at hwarning
      cases hwarning
  · intro hshadow
    obtain ⟨_, _, _, -, -, -, rfl⟩ := h.mem_shadowDiagnostics_iff.mp hshadow
    exact ⟨Or.inl hshadow, rfl⟩

/-- The range of a knot belongs to no other knot of the file. -/
theorem WellFormed.knot_eq_of_range (h : story.WellFormed) {other : Knot}
    (hknot : (path, knot) ∈ story.knots) (hother : (path, other) ∈ story.knots)
    (hrange : knot.range = other.range) : knot = other := by
  obtain ⟨file, hfile, hmem⟩ := h.mem_collect_iff.mp hknot
  obtain ⟨found, hfound, hmem'⟩ := h.mem_collect_iff.mp hother
  rw [hfile] at hfound
  cases hfound
  obtain ⟨text, rfl⟩ := h.exists_read hfile
  have hline := (Contents.header_spans (Contents.knot_mem_headers hmem)).start_line
  have hline' := (Contents.header_spans (Contents.knot_mem_headers hmem')).start_line
  rw [← hrange, hline] at hline'
  rcases Contents.knots_cases hmem hmem' with heq | hbefore | hbehind
  · exact heq
  · exact absurd hline' (Nat.ne_of_lt hbefore.1)
  · exact absurd hline'.symm (Nat.ne_of_lt hbehind.1)

/-- A knot is warned about in its file unless it wins. -/
theorem WellFormed.warns_iff (h : story.WellFormed) (hknot : (path, knot) ∈ story.knots) :
    story.Warns path knot.range ↔ story.knot? knot.name ≠ some (path, knot) := by
  constructor
  · rintro ⟨d, hd, hwarning, hrange⟩
    obtain ⟨hidden, winnerPath, winner, hmem, hwinner, hne, rfl⟩ :=
      h.mem_warnings_iff.mp ⟨hd, hwarning⟩
    obtain rfl : hidden = knot := h.knot_eq_of_range hmem hknot hrange
    rw [hwinner]
    exact fun heq => hne (Option.some.inj heq).symm
  · intro hloses
    obtain ⟨winnerPath, winner, hwinner⟩ := exists_winner hknot
    rw [hwinner] at hloses
    obtain ⟨hd, hwarning⟩ := h.mem_warnings_iff.mpr
      ⟨knot, winnerPath, winner, hknot, hwinner, fun heq => hloses (congrArg some heq.symm), rfl⟩
    exact ⟨_, hd, hwarning, rfl⟩

/-- All knots of a name win exactly if there is only one. -/
theorem wins_iff_countP (hnodup : story.knots.Nodup) {name : String}
    (hdefined : ∃ entry ∈ story.knots, entry.2.name = name) :
    (∀ entry ∈ story.knots, entry.2.name = name → story.knot? name = some entry) ↔
      (story.knots.countP fun (_, knot) => knot.name == name) = 1 := by
  have hmem (entry : Path × Knot) :
      entry ∈ story.knots.filter (fun (_, knot) => knot.name == name) ↔
        entry ∈ story.knots ∧ entry.2.name = name := by
    simp
  rw [List.countP_eq_length_filter, List.length_eq_one_iff]
  constructor
  · intro hwins
    obtain ⟨winner, hwinner, hname⟩ := hdefined
    refine ⟨winner, List.perm_singleton.mp ?_⟩
    refine (List.perm_ext_iff_of_nodup (hnodup.filter _) (List.nodup_singleton winner)).mpr ?_
    intro entry
    rw [hmem, List.mem_singleton]
    constructor
    · rintro ⟨hentry, hsame⟩
      exact Option.some.inj ((hwins entry hentry hsame).symm.trans (hwins winner hwinner hname))
    · rintro rfl
      exact ⟨hwinner, hname⟩
  · rintro ⟨only, honly⟩ entry hentry hname
    have hall := (hmem entry).mpr ⟨hentry, hname⟩
    rw [honly, List.mem_singleton] at hall
    rw [knot?, honly, hall, List.getLast?_singleton]

end Lookup

/-- The warnings about hidden knots tell the truth. The list of hidden knots is in the order of the files
    and lines, holds those that their names do not stand for, each with the one that its name stands for,
    and does not depend on the order of the groups that it is made from. So a name has no warning exactly
    if one knot has it, each knot but the winner is warned about in its own file, and the warning names
    the knot that a divert leads to where no stitch of the name is nearby. -/
theorem shadowed_knots_truth (origin : Origin) (changes : List Edit) :
    let story := origin.story.edits changes
    (story.shadowedKnots.Pairwise fun a b => a.1.before b.1 = true) ∧
    (∀ shadowed winner, (shadowed, winner) ∈ story.shadowedKnots ↔
      ∃ path knot winnerPath winning, shadowed = .knot path knot ∧ winner = .knot winnerPath winning ∧
        (path, knot) ∈ story.knots ∧ story.knot? knot.name = some (winnerPath, winning) ∧
        (path, knot) ≠ (winnerPath, winning)) ∧
    (∀ groups, groups.Perm story.knotsByName → shadowedAmong groups = story.shadowedKnots) ∧
    (∀ name, (∃ entry ∈ story.knots, entry.2.name = name) →
      ((∀ entry ∈ story.knots, entry.2.name = name → ¬ story.Warns entry.1 entry.2.range) ↔
        (story.knots.countP fun (_, knot) => knot.name == name) = 1)) ∧
    (∀ path knot, (path, knot) ∈ story.knots →
      (story.Warns path knot.range ↔ story.knot? knot.name ≠ some (path, knot))) ∧
    ∀ path, ∀ d ∈ story.graphDiagnostics path, d.severity = .warning →
      ∃ knot winnerPath winner, (path, knot) ∈ story.knots ∧
        d = story.shadowWarning knot winnerPath winner ∧
        ∀ source line, story.localStitch? source line knot.name = none →
          story.resolve? source line knot.name = some (.knot winnerPath winner) := by
  intro story
  have h : story.WellFormed := edits_wellFormed (origin_wellFormed origin) changes
  -- Whatever the groups are, the pairs are those of the knots that do not win their name, in order.
  have hknots := h.shadowedKnots_eq
  refine ⟨?_, fun shadowed winner => ?_, fun groups hgroups => ?_, fun name hdefined => ?_,
    fun path knot hknot => h.warns_iff hknot, fun path d hd hwarning => ?_⟩
  · rw [hknots, List.pairwise_filterMap]
    refine h.knots_before.imp fun hab x hx y hy => ?_
    rwa [(shadowed?_eq_some_iff.mp hx).1, (shadowed?_eq_some_iff.mp hy).1]
  · simp only [hknots, List.mem_filterMap, Prod.exists, shadowed?_eq_some_iff]
    constructor
    · rintro ⟨path, knot, hknot, rfl, winnerPath, winning, rfl, hwinner, hne⟩
      exact ⟨path, knot, winnerPath, winning, rfl, rfl, hknot, hwinner, hne⟩
    · rintro ⟨path, knot, winnerPath, winning, rfl, rfl, hknot, hwinner, hne⟩
      exact ⟨path, knot, hknot, rfl, winnerPath, winning, rfl, hwinner, hne⟩
  · rw [hknots, h.shadowedAmong_eq hgroups]
  · rw [← wins_iff_countP h.knots_nodup hdefined]
    refine forall₂_congr fun entry hentry => forall_congr' fun hname => ?_
    rw [h.warns_iff hentry, hname, not_not]
  · obtain ⟨knot, winnerPath, winner, hknot, hwinner, -, rfl⟩ :=
      h.mem_warnings_iff.mp ⟨hd, hwarning⟩
    refine ⟨knot, winnerPath, winner, hknot, rfl, fun source line hnone => ?_⟩
    rw [resolve?_word (h.names_of_mem hknot).2.1, hnone, hwinner]
    rfl

namespace SharedKnot

/-- The knot of the first file, which is hidden. -/
def hidden : Knot :=
  ⟨⟨"k", [], 1, ⟨⟨1, 3⟩, ⟨1, 4⟩⟩⟩, .knot, [⟨⟨"s", [], 2, ⟨⟨2, 2⟩, ⟨2, 3⟩⟩⟩, "k"⟩]⟩

/-- The knot of the second file, which wins. -/
def winner : Knot :=
  ⟨⟨"k", [], 0, ⟨⟨0, 3⟩, ⟨0, 4⟩⟩⟩, .knot, [⟨⟨"t", [], 1, ⟨⟨1, 2⟩, ⟨1, 3⟩⟩⟩, "k"⟩,
    ⟨⟨"s", [], 2, ⟨⟨2, 2⟩, ⟨2, 3⟩⟩⟩, "k"⟩, ⟨⟨"s", [], 3, ⟨⟨3, 2⟩, ⟨3, 3⟩⟩⟩, "k"⟩]⟩

/-- The first file has a warning that names the second one, and the second file has none. -/
theorem hidden_knot_is_warned :
    (.knot a hidden, .knot b winner) ∈ story.shadowedKnots ∧
      story.Warns a hidden.range ∧ ¬ story.Warns b winner.range := by
  obtain ⟨-, hmem, -, -, hwarns, -⟩ := shadowed_knots_truth (.empty .root) changes
  rw [edits_changes] at hmem hwarns
  have hhidden : (a, hidden) ∈ story.knots := by decide +kernel
  have hwinner : (b, winner) ∈ story.knots := by decide +kernel
  have hknot : story.knot? "k" = some (b, winner) := by decide +kernel
  have hne : (a, hidden) ≠ (b, winner) := by decide
  refine ⟨?_, (hwarns a hidden hhidden).mpr ?_, fun hwarned => ?_⟩
  · exact (hmem _ _).mpr ⟨a, hidden, b, winner, rfl, rfl, hhidden, hknot, hne⟩
  · rw [show hidden.name = "k" from rfl, hknot]
    exact fun heq => hne (Option.some.inj heq).symm
  · exact (hwarns b winner hwinner).mp hwarned hknot

end SharedKnot

end Story

end InkWorkspace
