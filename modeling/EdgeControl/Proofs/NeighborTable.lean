import EdgeControl.Host
import EdgeControl.Proofs.Address.Spelling
import EdgeControl.Proofs.Except

/-!
What is read from the text of a neighbor table, and which neighbor is found in it. The lines below
the heading are read one after the other, each with its number.
-/
namespace EdgeControl

open EdgeControl.Text

namespace NeighborTable

variable {cs line addr mac device : List Char} {rest : List (List Char)} {rows : List Row}
  {row : Row} {n : Nat} {e : LineError}

/-! ### One line -/

/-- The line has six columns or more, and these are the first, the fourth and the sixth. -/
def Columns (line addr mac device : List Char) : Prop :=
  ∃ hw flags mask more, words line = addr :: hw :: flags :: mac :: mask :: device :: more

def Gives (line : List Char) (row : Row) : Prop :=
  ∃ addr mac, Columns line addr mac row.device.toList ∧ Ipv4.ofText? addr = some row.addr ∧
    Mac.ofText? mac = some row.mac

def Bad (line : List Char) : Prop :=
  (words line).length < 6 ∨ ∃ addr mac device, Columns line addr mac device ∧
    (Ipv4.ofText? addr = none ∨ Mac.ofText? mac = none)

inductive Faults (n : Nat) (line : List Char) : LineError → Prop
  | tooFewColumns (few : (words line).length < 6) :
    Faults n line (.tooFewColumns n (words line).length)
  | badAddress {addr mac device : List Char} (columns : Columns line addr mac device)
    (bad : Ipv4.ofText? addr = none) : Faults n line (.badAddress n (String.ofList addr))
  | badMac {addr mac device : List Char} {a : Ipv4} (columns : Columns line addr mac device)
    (good : Ipv4.ofText? addr = some a) (bad : Mac.ofText? mac = none) :
    Faults n line (.badMac n (String.ofList mac))

theorem Columns.enough (columns : Columns line addr mac device) : 6 ≤ (words line).length := by
  obtain ⟨hw, flags, mask, more, columns⟩ := columns
  rw [columns]
  simp

theorem few_or_columns (line : List Char) :
    (words line).length < 6 ∨ ∃ addr mac device, Columns line addr mac device := by
  unfold Columns
  match words line with
  | [] | [_] | [_, _] | [_, _, _] | [_, _, _, _] | [_, _, _, _, _] => exact .inl (by simp)
  | addr :: hw :: flags :: mac :: mask :: device :: more =>
    exact .inr ⟨addr, mac, device, hw, flags, mask, more, rfl⟩

theorem Gives.rowOf_eq (gives : Gives line row) (n : Nat) : rowOf n (words line) = .ok row := by
  obtain ⟨addr, mac, ⟨hw, flags, mask, more, columns⟩, address, link⟩ := gives
  rw [columns, rowOf, address, link, String.ofList_toList]
  rfl

theorem Faults.rowOf_eq (faults : Faults n line e) : rowOf n (words line) = .error e := by
  cases faults with
  | tooFewColumns few =>
    unfold rowOf
    split
    · rename_i columns
      rw [columns] at few
      exact absurd few (by simp)
    · rfl
  | badAddress columns bad =>
    obtain ⟨hw, flags, mask, more, columns⟩ := columns
    rw [columns, rowOf, bad]
    rfl
  | badMac columns good bad =>
    obtain ⟨hw, flags, mask, more, columns⟩ := columns
    rw [columns, rowOf, good, bad]
    rfl

theorem gives_or_faults (n : Nat) (line : List Char) :
    ¬ Bad line ∧ (∃ row, Gives line row) ∨ Bad line ∧ ∃ e, Faults n line e := by
  rcases few_or_columns line with few | ⟨addr, mac, device, columns⟩
  · exact .inr ⟨.inl few, _, .tooFewColumns few⟩
  · cases address : Ipv4.ofText? addr with
    | none =>
      exact .inr ⟨.inr ⟨addr, mac, device, columns, .inl address⟩, _, .badAddress columns address⟩
    | some a =>
      cases link : Mac.ofText? mac with
      | none =>
        exact .inr ⟨.inr ⟨addr, mac, device, columns, .inr link⟩, _, .badMac columns address link⟩
      | some m =>
        refine .inl ⟨?_, ⟨a, m, String.ofList device⟩, addr, mac, ?_, address, link⟩
        · rintro (few | ⟨addr', mac', device', columns', bad⟩)
          · exact absurd columns.enough (Nat.not_le.mpr few)
          · obtain ⟨_, _, _, _, columns⟩ := columns
            obtain ⟨_, _, _, _, columns'⟩ := columns'
            simp only [columns, List.cons.injEq] at columns'
            obtain ⟨rfl, -, -, rfl, -⟩ := columns'
            simp [address, link] at bad
        · rwa [String.toList_ofList]

theorem rowOf_eq_ok_iff : rowOf n (words line) = .ok row ↔ Gives line row := by
  refine ⟨fun read => ?_, fun gives => gives.rowOf_eq n⟩
  rcases gives_or_faults n line with ⟨-, row', gives⟩ | ⟨-, e, faults⟩
  · cases read.symm.trans (gives.rowOf_eq n)
    exact gives
  · cases read.symm.trans faults.rowOf_eq

theorem bad_iff_faults (n : Nat) : Bad line ↔ ∃ e, Faults n line e := by
  rcases gives_or_faults n line with ⟨good, row, gives⟩ | ⟨bad, faulty⟩
  · refine iff_of_false good ?_
    rintro ⟨e, faults⟩
    cases (gives.rowOf_eq n).symm.trans faults.rowOf_eq
  · exact iff_of_true bad faulty

theorem bad_iff_not_gives : Bad line ↔ ¬ ∃ row, Gives line row := by
  rcases gives_or_faults 0 line with ⟨good, gives⟩ | ⟨bad, e, faults⟩
  · exact iff_of_false good fun none => none gives
  · refine iff_of_true bad ?_
    rintro ⟨row, gives⟩
    cases (gives.rowOf_eq 0).symm.trans faults.rowOf_eq

theorem Faults.names_line (faults : Faults n line e) :
    ∃ what : String, e.failure.text = s!"arp table line {n}: {what}" := by
  cases faults with
  | tooFewColumns =>
    have cut : ": expected 6 columns, got " = ": " ++ "expected 6 columns, got " := by decide
    refine ⟨s!"expected 6 columns, got {(words line).length}", ?_⟩
    dsimp only [LineError.failure]
    rw [cut]
    simp only [toString, String.append_assoc]
  | @badAddress addr =>
    have cut : ": invalid address '" = ": " ++ "invalid address '" := by decide
    refine ⟨s!"invalid address '{String.ofList addr}'", ?_⟩
    dsimp only [LineError.failure]
    rw [cut]
    simp only [toString, String.append_assoc]
  | @badMac _ mac =>
    have cut : ": invalid MAC '" = ": " ++ "invalid MAC '" := by decide
    refine ⟨s!"invalid MAC '{String.ofList mac}'", ?_⟩
    dsimp only [LineError.failure]
    rw [cut]
    simp only [toString, String.append_assoc]

/-! ### Line by line -/

def readFrom (n : Nat) : List (List Char) → Except LineError (List Row)
  | [] => .ok []
  | line :: rest =>
    if (words line).isEmpty then readFrom (n + 1) rest
    else do
      let row ← rowOf n (words line)
      return row :: (← readFrom (n + 1) rest)

theorem readFrom_eq_mapM (n : Nat) (rest : List (List Char)) : readFrom n rest =
    ((rest.mapIdx fun i line => (i + n, words line)).filter fun row => !row.2.isEmpty).mapM
      fun (line, columns) => rowOf line columns := by
  induction rest generalizing n with
  | nil => rfl
  | cons line rest ih =>
    have next (i : Nat) : i + 1 + n = i + (n + 1) := by omega
    simp only [readFrom, ih, List.mapIdx_cons, next, Nat.zero_add]
    cases empty : (words line).isEmpty with
    | true => simp [empty]
    | false => simp [empty]

theorem ofText_eq_readFrom (cs : List Char) : ofText cs = readFrom 2 (lines cs).tail := by
  rw [ofText, body, readFrom_eq_mapM]
  cases lines cs with
  | nil => rfl
  | cons head rest => simp [List.mapIdx_cons, Nat.add_assoc]

theorem readFrom_of_blank (blank : Blank line) :
    readFrom n (line :: rest) = readFrom (n + 1) rest :=
  if_pos (List.isEmpty_iff.mpr (words_eq_nil_iff.mpr blank))

theorem readFrom_of_not_blank (filled : ¬ Blank line) : readFrom n (line :: rest) = do
    let row ← rowOf n (words line)
    return row :: (← readFrom (n + 1) rest) :=
  if_neg fun empty => filled (words_eq_nil_iff.mp (List.isEmpty_iff.mp empty))

theorem readFrom_eq_ok_iff : readFrom n rest = .ok rows ↔
    List.Forall₂ Gives (rest.filter fun line => !line.all isBlank) rows := by
  induction rest generalizing n rows with
  | nil => simp [readFrom, eq_comm]
  | cons line rest ih =>
    by_cases blank : Blank line
    · have skipped : line.all isBlank = true := List.all_eq_true.mpr blank
      rw [readFrom_of_blank blank, ih, List.filter_cons_of_neg (by simp [skipped])]
    · have kept : line.all isBlank = false :=
        Bool.eq_false_iff.mpr fun all => blank (List.all_eq_true.mp all)
      rw [readFrom_of_not_blank blank, List.filter_cons_of_pos (by simp [kept]),
        List.forall₂_cons_left_iff]
      simp only [bind_eq_ok, rowOf_eq_ok_iff, ih]
      constructor
      · rintro ⟨row, gives, rows, others, ⟨⟩⟩
        exact ⟨row, rows, gives, others, rfl⟩
      · rintro ⟨row, rows, gives, others, rfl⟩
        exact ⟨row, gives, rows, others, rfl⟩

def FirstFault (n : Nat) (ls : List (List Char)) (e : LineError) : Prop :=
  ∃ before line after, ls = before ++ line :: after ∧ (∀ l ∈ before, Blank l ∨ ¬ Bad l) ∧
    ¬ Blank line ∧ Faults (n + before.length) line e

theorem firstFault_of_fine (fine : Blank line ∨ ¬ Bad line) :
    FirstFault n (line :: rest) e ↔ FirstFault (n + 1) rest e := by
  have number (k : Nat) : n + (k + 1) = n + 1 + k := by omega
  constructor
  · rintro ⟨before, l, after, split, earlier, filled, faults⟩
    cases before with
    | nil =>
      obtain ⟨rfl, rfl⟩ := List.cons.inj split
      exact absurd ((bad_iff_faults _).mpr ⟨e, faults⟩) (fine.resolve_left filled)
    | cons b before =>
      obtain ⟨rfl, rfl⟩ := List.cons.inj split
      rw [List.length_cons, number] at faults
      exact ⟨before, l, after, rfl, (List.forall_mem_cons.mp earlier).2, filled, faults⟩
  · rintro ⟨before, l, after, rfl, earlier, filled, faults⟩
    refine ⟨line :: before, l, after, rfl, List.forall_mem_cons.mpr ⟨fine, earlier⟩, filled, ?_⟩
    rwa [List.length_cons, number]

theorem firstFault_of_faults {e' : LineError} (filled : ¬ Blank line) (faults : Faults n line e') :
    FirstFault n (line :: rest) e ↔ e' = e := by
  constructor
  · rintro ⟨before, l, after, split, earlier, -, faults'⟩
    cases before with
    | nil =>
      obtain ⟨rfl, rfl⟩ := List.cons.inj split
      exact Except.error.inj (faults.rowOf_eq.symm.trans faults'.rowOf_eq)
    | cons b before =>
      obtain ⟨rfl, rfl⟩ := List.cons.inj split
      have fine := (List.forall_mem_cons.mp earlier).1.resolve_left filled
      exact absurd ((bad_iff_faults n).mpr ⟨e', faults⟩) fine
  · rintro rfl
    exact ⟨[], line, rest, rfl, nofun, filled, faults⟩

theorem readFrom_eq_error_iff : readFrom n rest = .error e ↔ FirstFault n rest e := by
  induction rest generalizing n with
  | nil => simp [readFrom, FirstFault]
  | cons line rest ih =>
    by_cases blank : Blank line
    · rw [readFrom_of_blank blank, ih, firstFault_of_fine (.inl blank)]
    · rw [readFrom_of_not_blank blank]
      rcases gives_or_faults n line with ⟨good, row, gives⟩ | ⟨-, e', faults⟩
      · rw [gives.rowOf_eq, firstFault_of_fine (.inr good), ← ih]
        cases readFrom (n + 1) rest <;> simp [bind, Except.bind, pure, Except.pure]
      · rw [faults.rowOf_eq, firstFault_of_faults blank faults]
        exact ⟨Except.error.inj, congrArg Except.error⟩

def rowLines (cs : List Char) : List (List Char) :=
  (lines cs).tail.filter fun line => !line.all isBlank

/-- Each of the lines below the heading gives its row, or the table is refused for the first one
that does not, by its number. -/
structure Reads (cs : List Char) : Prop where
  rows : ∀ rows, ofText cs = .ok rows ↔ List.Forall₂ Gives (rowLines cs) rows
  refused : (∃ e, ofText cs = .error e) ↔ ∃ line ∈ rowLines cs, Bad line
  first : ∀ e, ofText cs = .error e ↔ FirstFault 2 (lines cs).tail e

theorem exists_of_forall₂ {α β : Type} {r : α → β → Prop} {as : List α} {bs : List β}
    (related : List.Forall₂ r as bs) : ∀ a ∈ as, ∃ b, r a b := by
  induction related with
  | nil => exact nofun
  | cons first _ ih => exact List.forall_mem_cons.mpr ⟨⟨_, first⟩, ih⟩

theorem reads (cs : List Char) : Reads cs := by
  have rows (rows : List Row) : ofText cs = .ok rows ↔ List.Forall₂ Gives (rowLines cs) rows := by
    rw [ofText_eq_readFrom, readFrom_eq_ok_iff, rowLines]
  have first (e : LineError) : ofText cs = .error e ↔ FirstFault 2 (lines cs).tail e := by
    rw [ofText_eq_readFrom, readFrom_eq_error_iff]
  refine ⟨rows, ?_, first⟩
  constructor
  · rintro ⟨e, refused⟩
    obtain ⟨before, line, after, split, -, filled, faults⟩ := (first e).mp refused
    refine ⟨line, List.mem_filter.mpr ⟨by simp [split], ?_⟩, (bad_iff_faults _).mpr ⟨e, faults⟩⟩
    rw [Bool.not_eq_true', Bool.eq_false_iff]
    exact fun all => filled (List.all_eq_true.mp all)
  · rintro ⟨line, member, bad⟩
    cases result : ofText cs with
    | error e => exact ⟨e, rfl⟩
    | ok all =>
      exact absurd (exists_of_forall₂ ((rows all).mp result) line member) (bad_iff_not_gives.mp bad)

/-! ### Tables read back -/

/-- A line below the heading of a table that is written: a blank one or a row with a device name. -/
inductive Line where
  | blank (gap : List Char) (blank : Blank gap) (single : '\n' ∉ gap)
  | row (r : Row) (named : r.device ≠ "") (clean : ∀ c ∈ r.device.toList, isBlank c = false)

namespace Line

def toText : Line → List Char
  | .blank gap _ _ => gap ++ ['\n']
  | .row r _ _ => r.toText

def row? : Line → Option Row
  | .blank .. => none
  | .row r _ _ => some r

end Line

theorem mem_column {width : Nat} {w : List Char} {c : Char} (member : c ∈ column width w) :
    c ∈ w ∨ c = ' ' :=
  (List.mem_append.mp member).imp_right List.eq_of_mem_replicate

theorem words_column_append {width : Nat} {w cs : List Char} (some_char : w ≠ [])
    (clean : ∀ c ∈ w, isBlank c = false) (short : w.length < width) :
    words (column width w ++ cs) = w :: words cs := by
  obtain ⟨gap, rfl⟩ : ∃ gap, width = w.length + (gap + 1) := ⟨width - w.length - 1, by omega⟩
  have blank : Blank (List.replicate gap ' ') := fun c member => by
    rw [List.eq_of_mem_replicate member]
    rfl
  rw [column, Nat.add_sub_cancel_left, List.replicate_succ, List.append_assoc, List.cons_append,
    words_append_cons some_char clean rfl, words_append_of_blank blank]

namespace Row

def columns (r : Row) : List Char :=
  column 17 r.addr.toText ++ (column 12 ['0', 'x', '1'] ++ (column 12 ['0', 'x', '2'] ++
    (column 22 r.mac.toText ++ (column 9 ['*'] ++ r.device.toList))))

theorem toText_eq (r : Row) : r.toText = r.columns ++ ['\n'] := by
  have fixed : "0x1         0x2         ".toList =
      column 12 ['0', 'x', '1'] ++ column 12 ['0', 'x', '2'] := by decide
  have mask : "*        ".toList = column 9 ['*'] := by decide
  simp only [toText, columns, fixed, mask, List.append_assoc]

theorem words_columns (named : row.device ≠ "")
    (clean : ∀ c ∈ row.device.toList, isBlank c = false) : words row.columns =
      [row.addr.toText, ['0', 'x', '1'], ['0', 'x', '2'], row.mac.toText, ['*'],
        row.device.toList] := by
  have address : ∀ c ∈ row.addr.toText, isBlank c = false :=
    row.addr.clean_toText (by decide) (by decide)
  have link : ∀ c ∈ row.mac.toText, isBlank c = false :=
    row.mac.clean_toText (by decide) (by decide)
  have length : row.mac.toText.length = 17 := row.mac.length_toText
  have some_digit : row.mac.toText ≠ [] := List.ne_nil_of_length_pos (by omega)
  have device : row.device.toList ≠ [] := fun none => named (String.toList_eq_nil_iff.mp none)
  rw [columns, words_column_append row.addr.toText_ne_nil address row.addr.length_toText_lt,
    words_column_append (by decide) (by simp [isBlank]) (by decide),
    words_column_append (by decide) (by simp [isBlank]) (by decide),
    words_column_append some_digit link (by omega),
    words_column_append (by decide) (by simp [isBlank]) (by decide), words_of_clean device clean]

theorem newline_not_mem_columns (clean : ∀ c ∈ row.device.toList, isBlank c = false) :
    '\n' ∉ row.columns := by
  have address : ∀ c ∈ row.addr.toText, c ≠ '\n' := row.addr.clean_toText (by decide) (by decide)
  have link : ∀ c ∈ row.mac.toText, c ≠ '\n' := row.mac.clean_toText (by decide) (by decide)
  intro member
  simp only [columns, List.mem_append] at member
  rcases member with part | part | part | part | part | part
  · exact (mem_column part).elim (fun inside => address _ inside rfl) (by decide)
  · exact absurd part (by decide)
  · exact absurd part (by decide)
  · exact (mem_column part).elim (fun inside => link _ inside rfl) (by decide)
  · exact absurd part (by decide)
  · exact absurd (clean _ part) (by decide)

end Row

theorem readFrom_written (n : Nat) (ls : List Line) :
    readFrom n (lines (ls.flatMap Line.toText)) = .ok (ls.filterMap Line.row?) := by
  induction ls generalizing n with
  | nil => rfl
  | cons l ls ih =>
    rw [List.flatMap_cons]
    cases l with
    | blank gap blank single =>
      have still : Blank (withoutReturn gap) := by
        unfold withoutReturn
        split
        · exact fun c member => blank c (List.dropLast_subset gap member)
        · exact blank
      rw [Line.toText, List.append_assoc, List.singleton_append, lines_append_cons single,
        readFrom_of_blank still, ih]
      rfl
    | row r named clean =>
      have unchanged : withoutReturn r.columns = r.columns := by
        have some_char : r.device.toList ≠ [] :=
          fun none => named (String.toList_eq_nil_iff.mp none)
        refine if_neg fun last => ?_
        simp only [Row.columns, ← List.append_assoc] at last
        rw [List.getLast?_append_of_ne_nil _ some_char] at last
        exact absurd (clean _ (List.mem_of_mem_getLast? last)) (by decide)
      have filled : ¬ Blank r.columns := by
        rw [← words_eq_nil_iff, Row.words_columns named clean]
        exact List.cons_ne_nil _ _
      have gives : Gives r.columns r :=
        ⟨_, _, ⟨_, _, _, _, Row.words_columns named clean⟩, r.addr.ofText?_toText,
          r.mac.ofText?_toText⟩
      rw [Line.toText, Row.toText_eq, List.append_assoc, List.singleton_append,
        lines_append_cons (Row.newline_not_mem_columns clean), unchanged,
        readFrom_of_not_blank filled, gives.rowOf_eq, ih]
      rfl

theorem ofText_written {head : List Char} (single : '\n' ∉ head) (ls : List Line) :
    ofText (head ++ '\n' :: ls.flatMap Line.toText) = .ok (ls.filterMap Line.row?) := by
  rw [ofText_eq_readFrom, lines_append_cons single, List.tail_cons, readFrom_written]

/-! ### The neighbor that is found -/

variable {a : Ipv4}

theorem find?_eq_none_iff : find? rows a = none ↔ ∀ r ∈ rows, r.addr = a → r.mac = .zero := by
  simp [find?, Row.isResolved, Mac.isZero]

theorem find?_eq_some_iff : find? rows a = some row ↔ row.addr = a ∧ row.mac ≠ .zero ∧
    ∃ before after, rows = before ++ row :: after ∧ ∀ r ∈ before, r.addr = a → r.mac = .zero := by
  simp [find?, List.find?_eq_some_iff_append, Row.isResolved, Mac.isZero, and_assoc, imp_iff_not_or]

end NeighborTable

namespace Host

open NeighborTable

variable {h : Host} {a : Ipv4} {rows : List Row} {row : Row} {n : Balancer.Neighbor}

theorem neighborRows_eq_ok_iff : h.neighborRows = .ok rows ↔
    ∃ text, h.neighbors = some text ∧ ofText text.toList = .ok rows := by
  unfold neighborRows
  cases h.neighbors with
  | none => simp
  | some text => simp [mapError_eq_ok, ofString]

def Completes (h : Host) (row : Row) (n : Balancer.Neighbor) : Prop :=
  n.mac = row.mac ∧ n.device = row.device ∧ h.ifindex row.device = .ok n.ifindex ∧
    h.mac row.device = .ok n.deviceMac

theorem neighbor?_eq_ok_iff {found : Option Balancer.Neighbor} : h.neighbor? a = .ok found ↔
    ∃ rows, h.neighborRows = .ok rows ∧ (find? rows a = none ∧ found = none ∨
      ∃ row n, find? rows a = some row ∧ found = some n ∧ h.Completes row n) := by
  rw [neighbor?, bind_eq_ok]
  refine exists_congr fun rows => and_congr_right fun _ => ?_
  cases find? rows a with
  | none => simp [pure, Except.pure, eq_comm]
  | some row =>
    simp only [bind_eq_ok, mapError_eq_ok]
    constructor
    · rintro ⟨ifindex, index, mac, link, ⟨⟩⟩
      exact .inr ⟨row, _, rfl, rfl, rfl, rfl, index, link⟩
    · rintro (⟨⟨⟩, -⟩ | ⟨_, n, ⟨⟩, rfl, mac, device, index, link⟩)
      refine ⟨_, index, _, link, ?_⟩
      rw [← mac, ← device]
      rfl

/-- What is looked up in the table of a host: the first row with the address that is resolved, or
nothing if there is none. -/
structure Finds (h : Host) (a : Ipv4) : Prop where
  nothing : h.neighbor? a = .ok none ↔ ∃ text rows, h.neighbors = some text ∧
    ofText text.toList = .ok rows ∧ ∀ r ∈ rows, r.addr = a → r.mac = .zero
  neighbor : ∀ n, h.neighbor? a = .ok (some n) ↔ ∃ text before r after, h.neighbors = some text ∧
    ofText text.toList = .ok (before ++ r :: after) ∧ (∀ p ∈ before, p.addr = a → p.mac = .zero) ∧
      r.addr = a ∧ r.mac ≠ .zero ∧ h.Completes r n

theorem finds (h : Host) (a : Ipv4) : h.Finds a := by
  constructor
  · rw [neighbor?_eq_ok_iff]
    constructor
    · rintro ⟨rows, read, ⟨absent, -⟩ | ⟨_, _, -, ⟨⟩, -⟩⟩
      obtain ⟨text, file, parsed⟩ := neighborRows_eq_ok_iff.mp read
      exact ⟨text, rows, file, parsed, find?_eq_none_iff.mp absent⟩
    · rintro ⟨text, rows, file, parsed, absent⟩
      exact ⟨rows, neighborRows_eq_ok_iff.mpr ⟨text, file, parsed⟩,
        .inl ⟨find?_eq_none_iff.mpr absent, rfl⟩⟩
  · intro n
    rw [neighbor?_eq_ok_iff]
    constructor
    · rintro ⟨rows, read, ⟨-, ⟨⟩⟩ | ⟨r, _, found, ⟨⟩, completed⟩⟩
      obtain ⟨text, file, parsed⟩ := neighborRows_eq_ok_iff.mp read
      obtain ⟨address, resolved, before, after, rfl, earlier⟩ := find?_eq_some_iff.mp found
      exact ⟨text, before, r, after, file, parsed, earlier, address, resolved, completed⟩
    · rintro ⟨text, before, r, after, file, parsed, earlier, address, resolved, completed⟩
      exact ⟨_, neighborRows_eq_ok_iff.mpr ⟨text, file, parsed⟩, .inr ⟨r, n,
        find?_eq_some_iff.mpr ⟨address, resolved, before, after, rfl, earlier⟩, rfl, completed⟩⟩

end Host

namespace NeighborTable

/-- A text is read line by line or refused for its first bad line, which the error names; a table
that is written with blank lines among its rows is read back; and a host finds in its table the
first resolved row of an address. -/
theorem read_and_searched :
    (∀ cs, Reads cs) ∧
      (∀ n line e, Faults n line e → ∃ what : String,
        e.failure.text = s!"arp table line {n}: {what}") ∧
      (∀ (head : List Char) (ls : List Line), '\n' ∉ head →
        ofText (head ++ '\n' :: ls.flatMap Line.toText) = .ok (ls.filterMap Line.row?)) ∧
      ∀ (h : Host) (a : Ipv4), h.Finds a :=
  ⟨reads, fun _ _ _ => Faults.names_line, fun _ ls single => ofText_written single ls, Host.finds⟩

namespace Sample

def waiting : Row := ⟨⟨0x0a000002⟩, .zero, "h0"⟩

def resolved : Row := ⟨⟨0x0a000002⟩, ⟨#v[0x6a, 0xad, 0x44, 0x35, 0x5d, 0x78]⟩, "h1"⟩

def gap : Line := .blank [' '] (List.forall_mem_singleton.mpr rfl) (by decide)

def table : List Char := "IP address".toList ++ '\n' ::
  [gap, .row waiting (by decide) (by simp [waiting, isBlank]), gap,
    .row resolved (by decide) (by simp [resolved, isBlank])].flatMap Line.toText

def host : Host := {neighbors := some (String.ofList table), devices := [⟨"h1", 7, .zero⟩]}

end Sample

open Sample in
/-- A row that is not resolved hides no later row with its address. -/
theorem resolved_row_found :
    ofText table = .ok [waiting, resolved] ∧
      host.neighbor? ⟨0x0a000002⟩ = .ok (some ⟨resolved.mac, "h1", 7, .zero⟩) ∧
      ∃ what : String,
        (LineError.tooFewColumns 3 2).failure.text = s!"arp table line {3}: {what}" := by
  obtain ⟨-, named, back, finds⟩ := read_and_searched
  have parsed : ofText table = .ok [waiting, resolved] := back _ _ (by decide)
  refine ⟨parsed, ?_, named 3 "10.0.0.2 0x1".toList _ (.tooFewColumns (by decide))⟩
  have index : host.ifindex "h1" = .ok 7 := by decide +kernel
  have link : host.mac "h1" = .ok .zero := by decide +kernel
  refine ((finds host _).neighbor _).mpr ⟨_, [waiting], resolved, [], rfl, ?_, ?_, rfl, by decide,
    rfl, rfl, index, link⟩
  · rw [String.toList_ofList]
    exact parsed
  · exact List.forall_mem_singleton.mpr fun _ => rfl

end NeighborTable
end EdgeControl
