import InkWorkspace.Editor.Outline
import InkWorkspace.Proofs.Source.Fetch
import InkWorkspace.Proofs.Source.Partition
import InkWorkspace.Proofs.Story.References

/- The outline of a document nests. A header heads a block of lines. The block ends in front of the next
   header that ends such blocks, or with what is around it: a knot's with the file, that of a loose
   stitch in front of the first knot, and that of a stitch with its knot. All three are one computation
   (`withStops`), and where the headers rise and stand inside the bound it does what it says
   (`BlockEnd.of_mem`): line `n` at or behind the header is in the block exactly if it is inside the
   bound and in front of each header behind this one.

   So blocks of different headers do not meet, those of stitches stay in the block of their knot, and
   the name of a header, which stands on the first line of its block, is inside of it. The symbols of a
   file are its knots, loose stitches and globals with these blocks (`Shows`), put in the order of their
   lines, of which no two share one (`outline_nests`). -/
namespace InkWorkspace

open Text

/-! ## Blocks -/

namespace Range

/-- The first range is not turned, and lies inside the second. -/
structure Within (inner outer : Range) : Prop where
  start : ¬ inner.start.Before outer.start
  ordered : ¬ inner.stop.Before inner.start
  stop : ¬ outer.stop.Before inner.stop

end Range

namespace InkFile

variable (file : InkFile) {start stop first last : Nat}

theorem block_before (h : stop < first) : (file.block start stop).Before (file.block first last) :=
  Or.inl h

theorem block_within (hstart : start ≤ first) (hle : first ≤ last) (hstop : last ≤ stop) :
    (file.block first last).Within (file.block start stop) where
  start := by simp only [block, Position.Before]; omega
  ordered := by simp only [block, Position.Before]; omega
  stop := by
    intro hbefore
    rcases hbefore with hlt | ⟨heq, hlt⟩
    · exact absurd hlt (Nat.not_lt.mpr hstop)
    · obtain rfl : stop = last := heq
      exact absurd hlt (Nat.lt_irrefl _)

theorem spans_within_block {path : Path} {text name : String} {range : Range}
    (h : isOrdinary text.toList = true) (hspans : Range.Spans (lines text.toList) start range name)
    (hle : start ≤ stop) : range.Within ((read path text).block start stop) where
  start := by
    have hline := hspans.start_line
    simp only [block, Position.Before]
    omega
  ordered := by
    have hstart := hspans.start_line
    have hstop := hspans.stop_line
    have hne := hspans.ne_nil
    simp only [Position.Before]
    omega
  stop := by
    obtain ⟨chars, hline, hlength, -⟩ := hspans.text
    have hstop := hspans.stop_line
    intro hbefore
    rcases hbefore with hlt | ⟨heq, hlt⟩
    · have hlt : stop < range.stop.line := hlt
      omega
    · obtain rfl : stop = start := Eq.trans heq hstop
      simp only [block, line?_of_lines path h hline, Option.elim_some] at hlt
      omega

end InkFile

/-- From line `start` on, the lines up to `stop` are those inside the bound and in front of each start
    behind this one. -/
structure BlockEnd (bound : Nat) (starts : List Nat) (start stop : Nat) : Prop where
  le : start ≤ stop
  mem_iff : ∀ n, start ≤ n → (n ≤ stop ↔ n < bound ∧ ∀ other ∈ starts, start < other → n < other)

section Stops

variable {α : Type} (line : α → Nat) (bound : Nat)

/-- Each item with the last line of its block, which ends in front of the next item or of the bound. -/
def withStops : List α → List (α × Nat)
  | [] => []
  | item :: rest =>
    (item, max ((rest.head?.map line).getD bound - 1) (line item)) :: withStops rest

theorem map_withStops {β : Type} (f : α → β) (items : List α) :
    (withStops line bound items).map (fun entry => f entry.1) = items.map f := by
  induction items with
  | nil => rfl
  | cons item rest ih => rw [withStops, List.map_cons, ih, List.map_cons]

variable {line bound}

theorem mem_of_withStops {items : List α} {item : α} {stop : Nat}
    (h : (item, stop) ∈ withStops line bound items) : item ∈ items := by
  have hmap : item ∈ (withStops line bound items).map fun entry => entry.1 := List.mem_map_of_mem h
  rwa [map_withStops line bound (fun item => item), List.map_id'] at hmap

/-- The first start behind a block, or the bound, says where the block has to end. -/
theorem lt_next_iff {rest : List α} (hrising : rest.Pairwise fun a b => line a < line b)
    (hbound : ∀ item ∈ rest, line item < bound) (n : Nat) :
    n < (rest.head?.map line).getD bound ↔ n < bound ∧ ∀ other ∈ rest, n < line other := by
  cases hrising with
  | nil => simp
  | @cons next more hnext =>
    rw [List.forall_mem_cons] at hbound ⊢
    constructor
    · intro hlt
      exact ⟨Nat.lt_trans hlt hbound.1, hlt, fun other hother => Nat.lt_trans hlt (hnext other hother)⟩
    · exact fun hall => hall.2.1

theorem BlockEnd.of_mem {items : List α} (hrising : items.Pairwise fun a b => line a < line b)
    (hbound : ∀ item ∈ items, line item < bound) {item : α} {stop : Nat}
    (h : (item, stop) ∈ withStops line bound items) :
    BlockEnd bound (items.map line) (line item) stop := by
  -- The first block ends by what stands behind it. For the others a start in front changes nothing.
  induction hrising with
  | nil => cases h
  | @cons first rest hfirst hrest ih =>
    rw [List.forall_mem_cons] at hbound
    rcases List.mem_cons.mp h with heq | h
    · obtain ⟨rfl, rfl⟩ := Prod.mk.inj heq
      have hnext := lt_next_iff hrest hbound.2
      have hlt := (hnext (line item)).mpr ⟨hbound.1, hfirst⟩
      refine ⟨Nat.le_max_right _ _, fun n hn => ?_⟩
      calc n ≤ max ((rest.head?.map line).getD bound - 1) (line item)
        _ ↔ n < (rest.head?.map line).getD bound := by omega
        _ ↔ n < bound ∧ ∀ other ∈ rest, n < line other := hnext n
        _ ↔ n < bound ∧ ∀ other ∈ (item :: rest).map line, line item < other → n < other := by
          refine and_congr_right fun _ => ?_
          rw [List.forall_mem_map, List.forall_mem_cons]
          exact ⟨fun hall => ⟨fun hself => absurd hself (Nat.lt_irrefl _),
            fun other hother _ => hall other hother⟩,
            fun hall other hother => hall.2 other hother (hfirst other hother)⟩
    · obtain ⟨hle, hmem⟩ := ih hbound.2 h
      have hbehind := hfirst item (mem_of_withStops h)
      refine ⟨hle, fun n hn => (hmem n hn).trans (and_congr_right fun _ => ?_)⟩
      rw [List.map_cons, List.forall_mem_cons]
      exact ⟨fun hall => ⟨fun hlt => absurd hlt (Nat.lt_asymm hbehind), hall⟩, And.right⟩

theorem withStops_rising {items : List α} (hrising : items.Pairwise fun a b => line a < line b) :
    (withStops line bound items).Pairwise fun a b => line a.1 < line b.1 := by
  have hlines := List.pairwise_map.mpr hrising
  rw [← map_withStops line bound line] at hlines
  exact List.pairwise_map.mp hlines

/-- A block ends inside the bound and in front of each start behind its own. -/
theorem BlockEnd.inside {starts : List Nat} {start stop : Nat} (h : BlockEnd bound starts start stop) :
    stop < bound ∧ ∀ other ∈ starts, start < other → stop < other :=
  (h.mem_iff stop h.le).mp (Nat.le_refl stop)

end Stops

/-! ## Symbols -/

namespace InkFile

section Symbols

variable (file : InkFile)

/-- The symbol of a stitch whose block ends with line `stop`. -/
def stitchSymbol (stitch : Stitch) (stop : Nat) : LeafSymbol :=
  ⟨stitch.name, stitch.signature, .stitch, file.block stitch.line stop, stitch.range⟩

/-- The symbol of a knot whose block ends with line `stop`. -/
def knotSymbol (knot : Knot) (stop : Nat) : DocumentSymbol :=
  ⟨⟨knot.name, knot.signature, knot.kind.symbol, file.block knot.line stop, knot.range⟩,
    file.stitchSymbols stop knot.stitches⟩

/-- The symbol of a loose stitch header whose block ends with line `stop`. -/
def looseSymbol (header : Header) (stop : Nat) : DocumentSymbol :=
  ⟨⟨header.name, "stitch outside any knot", .stitch, file.block header.line stop, header.range⟩, []⟩

theorem stitchSymbols_eq (stop : Nat) (stitches : List Stitch) : file.stitchSymbols stop stitches =
    (withStops (·.line) (stop + 1) stitches).map fun (stitch, last) => file.stitchSymbol stitch last := by
  induction stitches with
  | nil => rfl
  | cons stitch rest ih =>
    cases rest with
    | nil => rfl
    | cons next more => rw [stitchSymbols, ih]; rfl

theorem knotSymbols_eq (knots : List Knot) : file.knotSymbols knots =
    (withStops (·.line) file.lineCount knots).map fun (knot, stop) =>
      (knot.line, file.knotSymbol knot stop) := by
  induction knots with
  | nil => rfl
  | cons knot rest ih => rw [knotSymbols, ih]; rfl

theorem looseSymbols_eq (next : Option Nat) (loose : List Header) : file.looseSymbols next loose =
    (withStops (·.line) (next.getD file.lineCount) loose).map fun (header, stop) =>
      (header.line, file.looseSymbol header stop) := by
  induction loose with
  | nil => rfl
  | cons header rest ih =>
    cases rest with
    | nil => rfl
    | cons other more => rw [looseSymbols, ih]; rfl

/-- The symbols of a file with the lines that they are sorted by: knots, loose stitches and globals. -/
def listed : List (Nat × DocumentSymbol) :=
  file.knotSymbols file.knots ++ file.looseSymbols (file.knots.head?.map (·.line)) file.loose ++
    file.globals.map variableSymbol

theorem mem_symbols_iff {symbol : DocumentSymbol} :
    symbol ∈ file.symbols ↔ ∃ number, (number, symbol) ∈ file.listed := by
  simp [symbols, listed]

end Symbols

end InkFile

namespace SymbolKind

/-- Whether a symbol of that kind heads a block. A global does not. -/
def headsBlock : SymbolKind → Bool
  | knot | function | stitch => true
  | var | const | list => false

theorem headsBlock_global (kind : VariableKind) : kind.symbol.headsBlock = false := by
  cases kind <;> rfl

end SymbolKind

/-! ## Entries -/

/-- What an outline shows of an item, wherever the block of the item ends. -/
structure OutlineEntry where
  line : Nat
  name : String
  detail : String
  kind : SymbolKind
  selection : Range

def LeafSymbol.entry (symbol : LeafSymbol) : OutlineEntry :=
  ⟨symbol.range.start.line, symbol.name, symbol.detail, symbol.kind, symbol.selection⟩

/-- The entry of a symbol and those of the symbols below it. -/
def DocumentSymbol.entries (symbol : DocumentSymbol) : OutlineEntry × List OutlineEntry :=
  (symbol.entry, symbol.children.map (·.entry))

def Header.entry (header : Header) (detail : String) (kind : SymbolKind) : OutlineEntry :=
  ⟨header.line, header.name, detail, kind, header.range⟩

def Variable.entry (declared : Variable) : OutlineEntry :=
  ⟨declared.line, declared.name, declared.kind.keyword, declared.kind.symbol, declared.range⟩

/-- The entries of an index: one for each knot, with one below it for each of its stitches, one for each
    stitch outside any knot, and one for each global. -/
def Contents.entries (contents : Contents) : List (OutlineEntry × List OutlineEntry) :=
  contents.knots.map (fun knot => (knot.entry knot.signature knot.kind.symbol,
    knot.stitches.map fun stitch => stitch.entry stitch.signature .stitch)) ++
  contents.loose.map (fun header => (header.entry "stitch outside any knot" .stitch, [])) ++
  contents.globals.map fun declared => (declared.entry, [])

namespace InkFile

section Entries

variable (file : InkFile)

theorem stitchSymbols_entries (stop : Nat) (stitches : List Stitch) :
    (file.stitchSymbols stop stitches).map (·.entry) =
      stitches.map fun stitch => stitch.entry stitch.signature .stitch := by
  rw [stitchSymbols_eq, List.map_map]
  exact map_withStops _ _ (fun stitch => stitch.entry stitch.signature .stitch) stitches

theorem knotSymbols_entries (knots : List Knot) :
    (file.knotSymbols knots).map (·.2.entries) = knots.map fun knot =>
      (knot.entry knot.signature knot.kind.symbol,
        knot.stitches.map fun stitch => stitch.entry stitch.signature .stitch) := by
  rw [knotSymbols_eq, List.map_map]
  refine Eq.trans (List.map_congr_left fun (knot, stop) _ => ?_) (map_withStops _ _ _ knots)
  exact congrArg (Prod.mk _) (file.stitchSymbols_entries stop knot.stitches)

theorem looseSymbols_entries (next : Option Nat) (loose : List Header) :
    (file.looseSymbols next loose).map (·.2.entries) =
      loose.map fun header => (header.entry "stitch outside any knot" .stitch, []) := by
  rw [looseSymbols_eq, List.map_map]
  exact map_withStops _ _ (fun header => (header.entry "stitch outside any knot" .stitch, [])) loose

end Entries

section Read

variable {path : Path} {text : String}

theorem start_line_of_mem_listed {number : Nat} {symbol : DocumentSymbol}
    (h : (number, symbol) ∈ (read path text).listed) : symbol.range.start.line = number := by
  simp only [listed, knotSymbols_eq, looseSymbols_eq, List.mem_append, List.mem_map,
    Prod.mk.injEq] at h
  rcases h with (⟨_, -, rfl, rfl⟩ | ⟨_, -, rfl, rfl⟩) | ⟨declared, hdeclared, heq⟩
  · rfl
  · rfl
  · cases heq
    exact (Contents.global_spans hdeclared).start_line

theorem listed_entries : (read path text).listed.map (fun entry => entry.2.entries) =
    (read path text).entries := by
  rw [listed, List.map_append, List.map_append, knotSymbols_entries, looseSymbols_entries,
    List.map_map, Contents.entries]
  refine congrArg (List.append _) (List.map_congr_left fun declared hdeclared => ?_)
  have hline := (Contents.global_spans hdeclared).start_line
  simp only [Function.comp_apply, DocumentSymbol.entries, LeafSymbol.entry, variableSymbol,
    Variable.entry, hline, List.map_nil]

/-- No two entries have one line: a line declares one thing at most. -/
theorem entries_lines_nodup (path : Path) (text : String) :
    ((read path text).entries.map (·.1.line)).Nodup := by
  have hitems : ((read path text).items.map Prod.fst).Nodup := by
    have hrising := Contents.listed_rising Contents.itemOn? Contents.itemOn?_fst 0
      (lines text.toList)
    have hlines := List.pairwise_map.mpr hrising
    refine ((Contents.items_ofLines 0 (lines text.toList)).map Prod.fst).nodup_iff.mpr ?_
    exact hlines.imp Nat.ne_of_lt
  refine hitems.sublist ?_
  simp [Contents.entries, Contents.items, Function.comp_def, Header.entry, Variable.entry]

/-- The symbols stand in the order of their lines, and no two begin on one line. -/
theorem symbols_rising (path : Path) (text : String) :
    (read path text).symbols.Pairwise fun a b => a.range.start.line < b.range.start.line := by
  let file := read path text
  let sorted := file.listed.mergeSort fun a b => a.1 ≤ b.1
  -- Sorting by lines leaves no item behind one with a greater line, and no two have the same one.
  have hperm : sorted.Perm file.listed := List.mergeSort_perm _ _
  have hsorted : sorted.Pairwise fun a b => a.1 ≤ b.1 := pairwise_mergeSort_key Prod.fst file.listed
  have hlines : sorted.Pairwise fun a b => a.2.range.start.line ≠ b.2.range.start.line := by
    have hnodup := entries_lines_nodup path text
    rw [← listed_entries, List.map_map] at hnodup
    exact List.pairwise_map.mp ((hperm.map _).nodup_iff.mpr hnodup)
  refine List.pairwise_map.mpr ((hsorted.and hlines).imp_of_mem ?_)
  intro a b ha hb h
  obtain ⟨hle, hne⟩ := h
  rw [← start_line_of_mem_listed (hperm.mem_iff.mp ha),
    ← start_line_of_mem_listed (hperm.mem_iff.mp hb)] at hle
  exact Nat.lt_of_le_of_ne hle hne

theorem symbols_entries (path : Path) (text : String) :
    ((read path text).symbols.map (·.entries)).Perm (read path text).entries := by
  rw [← listed_entries, symbols, List.map_map]
  exact (List.mergeSort_perm _ _).map _

end Read

/-! ## What symbols show -/

/-- The line in front of which the block of a loose stitch ends. -/
def looseBound (file : InkFile) : Nat :=
  (file.knots.head?.map (·.line)).getD file.lineCount

/-- What a symbol of a file shows: an item, and the block that it heads if it is a header. -/
inductive Shows (file : InkFile) : DocumentSymbol → Prop
  | knot {knot : Knot} {stop : Nat} : knot ∈ file.knots →
      BlockEnd file.lineCount (file.knots.map (·.line)) knot.line stop →
      Shows file (file.knotSymbol knot stop)
  | loose {header : Header} {stop : Nat} : header ∈ file.loose →
      BlockEnd file.looseBound (file.loose.map (·.line)) header.line stop →
      Shows file (file.looseSymbol header stop)
  | global {declared : Variable} : declared ∈ file.globals → Shows file (variableSymbol declared).2

/-- The range of a knot holds each line from its header up to the next knot header. -/
theorem Shows.body_within {file : InkFile} {symbol : DocumentSymbol} (hshows : Shows file symbol)
    (hkind : symbol.kind = .knot ∨ symbol.kind = .function) {n : Nat}
    (hn : symbol.range.start.line ≤ n) (hcount : n < file.lineCount)
    (hnext : ∀ knot ∈ file.knots, symbol.range.start.line < knot.line → n < knot.line) :
    (file.block n n).Within symbol.range := by
  cases hshows with
  | knot hknot hend =>
    refine block_within _ hn (Nat.le_refl n) ((hend.mem_iff n hn).mpr ⟨hcount, ?_⟩)
    rw [List.forall_mem_map]
    exact hnext
  | loose => rcases hkind with hkind | hkind <;> cases hkind
  | @global declared =>
    have hnone := SymbolKind.headsBlock_global declared.kind
    rcases hkind with hkind | hkind
    · cases hnone.symm.trans (congrArg SymbolKind.headsBlock hkind)
    · cases hnone.symm.trans (congrArg SymbolKind.headsBlock hkind)

section Ordinary

variable {path : Path} {text : String} (h : isOrdinary text.toList = true)

include h

theorem header_line_lt {header : Header} (hheader : header ∈ (read path text).headers) :
    header.line < (read path text).lineCount := by
  obtain ⟨line, -, hline, -⟩ := Contents.header_on hheader
  have hlt : header.line < (lines text.toList).length := (List.getElem?_eq_some_iff.mp hline).1
  rw [lineCount_eq path h, List.length_append]
  omega

theorem lt_looseBound_iff (n : Nat) : n < (read path text).looseBound ↔
    n < (read path text).lineCount ∧ ∀ knot ∈ (read path text).knots, n < knot.line :=
  lt_next_iff ((Contents.knots_apart 0 (lines text.toList)).imp And.left)
    (fun _ hknot => header_line_lt h (Contents.knot_mem_headers hknot)) n

theorem shows_of_mem {symbol : DocumentSymbol} (hsymbol : symbol ∈ (read path text).symbols) :
    Shows (read path text) symbol := by
  obtain ⟨number, hlisted⟩ := (mem_symbols_iff _).mp hsymbol
  simp only [listed, knotSymbols_eq, looseSymbols_eq, List.mem_append, List.mem_map,
    Prod.mk.injEq] at hlisted
  rcases hlisted with (⟨⟨knot, stop⟩, hknot, -, rfl⟩ | ⟨⟨header, stop⟩, hloose, -, rfl⟩) |
    ⟨declared, hdeclared, heq⟩
  · refine .knot (mem_of_withStops hknot) (.of_mem ?_ ?_ hknot)
    · exact (Contents.knots_apart 0 (lines text.toList)).imp And.left
    · exact fun knot hknot => header_line_lt h (Contents.knot_mem_headers hknot)
  · refine .loose (mem_of_withStops hloose) (.of_mem ?_ ?_ hloose)
    · exact (List.pairwise_append.mp (Contents.headers_rising 0 (lines text.toList))).1
    · intro header hloose
      refine (lt_looseBound_iff h header.line).mpr ⟨?_, fun knot hknot => ?_⟩
      · exact header_line_lt h (Contents.loose_mem_headers hloose)
      · exact Contents.loose_before hloose hknot
  · cases heq
    exact .global hdeclared

/-- A stitch of a knot stands in the block of the knot, so its own ends there too. -/
theorem stitch_blockEnd {knot : Knot} {stop : Nat} (hknot : knot ∈ (read path text).knots)
    (hend : BlockEnd (read path text).lineCount ((read path text).knots.map (·.line)) knot.line stop)
    {stitch : Stitch} {last : Nat}
    (hstitch : (stitch, last) ∈ withStops (·.line) (stop + 1) knot.stitches) :
    BlockEnd (stop + 1) (knot.stitches.map (·.line)) stitch.line last := by
  obtain ⟨hbehind, hrising⟩ := Contents.stitches_behind hknot
  refine .of_mem hrising (fun other hother => Nat.lt_succ_of_le ?_) hstitch
  refine (hend.mem_iff _ (Nat.le_of_lt (hbehind other hother))).mpr ⟨?_, ?_⟩
  · exact header_line_lt h (Contents.stitch_mem_headers hknot hother)
  · rw [List.forall_mem_map]
    exact fun next hnext hlt => Contents.stitch_before hknot hother hnext hlt

theorem Shows.selection_within {symbol : DocumentSymbol} (hshows : Shows (read path text) symbol) :
    symbol.selection.Within symbol.range := by
  cases hshows with
  | knot hknot hend =>
    exact spans_within_block h (Contents.header_spans (Contents.knot_mem_headers hknot)) hend.le
  | loose hloose hend =>
    exact spans_within_block h (Contents.header_spans (Contents.loose_mem_headers hloose)) hend.le
  | global hdeclared =>
    have hspans := Contents.global_spans hdeclared
    have hstart := hspans.start_line
    have hstop := hspans.stop_line
    have hne := hspans.ne_nil
    constructor <;> simp only [variableSymbol, Position.Before] <;> omega

theorem Shows.child_within {symbol : DocumentSymbol} (hshows : Shows (read path text) symbol)
    {child : LeafSymbol} (hchild : child ∈ symbol.children) :
    child.selection.Within child.range ∧ child.range.Within symbol.range := by
  cases hshows with
  | knot hknot hend =>
    simp only [knotSymbol, stitchSymbols_eq, List.mem_map] at hchild
    obtain ⟨⟨stitch, last⟩, hstitch, rfl⟩ := hchild
    have hmem := mem_of_withStops hstitch
    have hlast := stitch_blockEnd h hknot hend hstitch
    have hspans := Contents.header_spans (Contents.stitch_mem_headers hknot hmem)
    refine ⟨spans_within_block h hspans hlast.le, block_within _ ?_ hlast.le ?_⟩
    · exact Nat.le_of_lt ((Contents.stitches_behind hknot).1 stitch hmem)
    · exact Nat.le_of_lt_succ hlast.inside.1
  | loose => cases hchild
  | global => cases hchild

theorem Shows.children_before {symbol : DocumentSymbol} (hshows : Shows (read path text) symbol) :
    symbol.children.Pairwise fun a b => a.range.Before b.range := by
  cases hshows with
  | knot hknot hend =>
    simp only [knotSymbol, stitchSymbols_eq, List.pairwise_map]
    refine (withStops_rising (Contents.stitches_behind hknot).2).imp_of_mem ?_
    rintro ⟨stitch, last⟩ ⟨other, _⟩ hstitch hother hlt
    refine block_before _ ((stitch_blockEnd h hknot hend hstitch).inside.2 other.line ?_ hlt)
    exact List.mem_map_of_mem (mem_of_withStops hother)
  | loose => exact List.Pairwise.nil
  | global => exact List.Pairwise.nil

/-- Of two blocks the one that begins first ends before the other begins. -/
theorem Shows.before {a b : DocumentSymbol} (ha : Shows (read path text) a)
    (hb : Shows (read path text) b) (hblock : a.kind.headsBlock = true)
    (hother : b.kind.headsBlock = true) (hlt : a.range.start.line < b.range.start.line) :
    a.range.Before b.range := by
  -- A loose block ends in front of every knot, so it is never the later one beside a knot.
  cases ha with
  | knot hknot hend =>
    cases hb with
    | knot hnext => exact block_before _ (hend.inside.2 _ (List.mem_map_of_mem hnext) hlt)
    | loose hloose => exact absurd hlt (Nat.lt_asymm (Contents.loose_before hloose hknot))
    | global => exact absurd hother (by simp [variableSymbol, SymbolKind.headsBlock_global])
  | loose hloose hend =>
    cases hb with
    | knot hknot =>
      exact block_before _ (((lt_looseBound_iff h _).mp hend.inside.1).2 _ hknot)
    | loose hnext => exact block_before _ (hend.inside.2 _ (List.mem_map_of_mem hnext) hlt)
    | global => exact absurd hother (by simp [variableSymbol, SymbolKind.headsBlock_global])
  | global => exact absurd hblock (by simp [variableSymbol, SymbolKind.headsBlock_global])

end Ordinary

/-- Symbols that nest: what a client may rely on when it shows the outline of a file. -/
structure Nests (file : InkFile) (symbols : List DocumentSymbol) : Prop where
  rising : symbols.Pairwise fun a b => a.range.start.line < b.range.start.line
  /-- One symbol for each knot, loose stitch and global, and in a knot one for each of its stitches. -/
  entries : (symbols.map (·.entries)).Perm file.entries
  selection_within : ∀ symbol ∈ symbols, symbol.selection.Within symbol.range ∧
    ∀ child ∈ symbol.children, child.selection.Within child.range
  child_within : ∀ symbol ∈ symbols, ∀ child ∈ symbol.children, child.range.Within symbol.range
  blocks_before : (symbols.filter (·.kind.headsBlock)).Pairwise fun a b => a.range.Before b.range
  children_before : ∀ symbol ∈ symbols, symbol.children.Pairwise fun a b => a.range.Before b.range
  /-- The range of a knot holds each line from its header up to the next knot header. -/
  body_within : ∀ symbol ∈ symbols, symbol.kind = .knot ∨ symbol.kind = .function →
    ∀ n, symbol.range.start.line ≤ n → n < file.lineCount →
      (∀ knot ∈ file.knots, symbol.range.start.line < knot.line → n < knot.line) →
      (file.block n n).Within symbol.range

theorem symbols_nest (path : Path) {text : String} (h : isOrdinary text.toList = true) :
    Nests (read path text) (read path text).symbols where
  rising := symbols_rising path text
  entries := symbols_entries path text
  selection_within := fun _ hsymbol => ⟨(shows_of_mem h hsymbol).selection_within h,
    fun _ hchild => ((shows_of_mem h hsymbol).child_within h hchild).1⟩
  child_within := fun _ hsymbol _ hchild => ((shows_of_mem h hsymbol).child_within h hchild).2
  blocks_before := by
    refine ((symbols_rising path text).filter _).imp_of_mem fun {a b} ha hb hlt => ?_
    obtain ⟨ha, hblock⟩ := List.mem_filter.mp ha
    obtain ⟨hb, hother⟩ := List.mem_filter.mp hb
    exact (shows_of_mem h ha).before h (shows_of_mem h hb) hblock hother hlt
  children_before := fun _ hsymbol => (shows_of_mem h hsymbol).children_before h
  body_within := fun _ hsymbol hkind _ hn hcount hnext =>
    (shows_of_mem h hsymbol).body_within hkind hn hcount hnext

end InkFile

namespace Story

theorem symbols?_getD {story : Story} {path : Path} {file : InkFile}
    (hfile : story.file? path = some file) : (story.symbols? path).getD [] = file.symbols := by
  simp only [symbols?, hfile, Option.bind_eq_bind, Option.bind_some, List.isEmpty_iff]
  split
  · next hnil => rw [hnil]; rfl
  · rfl

/-- The outline that a client gets nests. -/
theorem outline_nests (origin : Origin) (changes : List Edit) {path : Path} {file : InkFile}
    (hfile : (origin.story.edits changes).file? path = some file)
    (hrare : ∀ c ∈ file.text.toList, c.toNat ∉ [0x0B, 0x0C, 0x85, 0x2028, 0x2029])
    (hreturn : ∀ front back, file.text.toList = front ++ '\r' :: back → back.head? = some '\n') :
    file.Nests (((origin.story.edits changes).symbols? path).getD []) := by
  have h := edits_wellFormed (origin_wellFormed origin) changes
  rw [symbols?_getD hfile]
  obtain ⟨text, rfl⟩ := h.exists_read hfile
  exact InkFile.symbols_nest path (isOrdinary_iff.mpr ⟨hrare, hreturn⟩)

/-! ## Blocks of one line -/

namespace AdjacentHeaders

/-- A file in which three headers follow each other, and which ends in an open line. -/
def path : Path := .ofString "/a.ink"

def text : String := "VAR x = 1\n= lost\n== a ==\n== b ==\n= s\n-> s\n= t\n"

def changes : List Edit := [.update .empty path text]

theorem file?_eq :
    ((Origin.empty .root).story.edits changes).file? path = some (.read path text) := by
  have hstory := (empty_wellFormed .root).update_of_targets_nil .empty path text rfl (by decide +kernel)
  show ((Story.empty .root).update .empty path text).file? path = some (.read path text)
  rw [hstory]
  rfl

/-- The symbol of the last knot. Its block and that of its last stitch end with the open line. -/
def last : DocumentSymbol :=
  ⟨⟨"b", "=== b ===", .knot, ⟨⟨3, 0⟩, ⟨7, 0⟩⟩, ⟨⟨3, 3⟩, ⟨3, 4⟩⟩⟩,
    [⟨"s", "= s", .stitch, ⟨⟨4, 0⟩, ⟨5, 4⟩⟩, ⟨⟨4, 2⟩, ⟨4, 3⟩⟩⟩,
      ⟨"t", "= t", .stitch, ⟨⟨6, 0⟩, ⟨7, 0⟩⟩, ⟨⟨6, 2⟩, ⟨6, 3⟩⟩⟩]⟩

/-- The outline of the file has four symbols, and the last knot holds the open line. -/
theorem outline_of_adjacent_headers :
    ((Origin.empty .root).story.edits changes).file? path = some (.read path text) ∧
      (∀ c ∈ text.toList, c.toNat ∉ [0x0B, 0x0C, 0x85, 0x2028, 0x2029]) ∧
      (∀ front back, text.toList = front ++ '\r' :: back → back.head? = some '\n') ∧
      ∃ symbols, (((Origin.empty .root).story.edits changes).symbols? path).getD [] = symbols ∧
        symbols.length = 4 ∧ last ∈ symbols ∧
        ((InkFile.read path text).block 7 7).Within last.range := by
  have hordinary : isOrdinary text.toList = true := by decide +kernel
  obtain ⟨hrare, hreturn⟩ := isOrdinary_iff.mp hordinary
  have hnests := outline_nests (.empty .root) changes file?_eq hrare hreturn
  refine ⟨file?_eq, hrare, hreturn, _, rfl, ?_⟩
  rw [symbols?_getD file?_eq] at hnests ⊢
  have hlast : last ∈ (InkFile.read path text).symbols :=
    (InkFile.mem_symbols_iff _).mpr ⟨3, by decide +kernel⟩
  have hlength := hnests.entries.length_eq
  rw [List.length_map] at hlength
  refine ⟨hlength.trans (by decide +kernel), hlast, ?_⟩
  exact hnests.body_within last hlast (Or.inl rfl) 7 (by decide) (by decide +kernel) (by decide +kernel)

end AdjacentHeaders

end Story

end InkWorkspace
