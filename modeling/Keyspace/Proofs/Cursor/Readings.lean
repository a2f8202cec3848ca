import Keyspace.Proofs.Cursor.Faults

/-!
# Readings of a scan

A source may hand out any scans, and what it reads may change between two steps.
All that is asked of it is that a step which claims an entry has one.  The steps
of a scan of a cursor, each in a world of its own, then read entries, failures of
the source, and the end, behind which nothing is read.
-/

namespace Keyspace

/-! ## What sources hand out -/

namespace Source

variable {World Scan : Type}

/-- The errors that a source itself reports. -/
inductive Reports (source : Source World Scan) : Error -> Prop where
  /-- It cannot open a scan. -/
  | opening
      {world : World}
      {first beyond : Option Bytes}
      {error : Error}
      (failed : source.openScan world first beyond = .error error) : Reports source error
  /-- It cannot step a scan. -/
  | stepping
      {world : World}
      {scan next : Scan}
      {error : Error}
      (failed : source.advance world scan = (.error error, next)) : Reports source error
  /-- It cannot read a key. -/
  | reading
      {world : World}
      {key : Bytes}
      {error : Error}
      (failed : source.get world key = .error error) : Reports source error

/-- The scans that a source hands out, after any number of steps. -/
inductive Reaches (source : Source World Scan) : Scan -> Prop where
  /-- Of a scan before its first step. -/
  | opened
      {world : World}
      {first beyond : Option Bytes}
      {scan : Scan}
      (opens : source.openScan world first beyond = .ok scan) : Reaches source scan
  /-- Of a scan after one more step. -/
  | stepped
      {scan : Scan}
      (world : World)
      (reached : Reaches source scan) : Reaches source (source.advance world scan).2

/-- The contract of scans: one that claims an entry stands at an entry. -/
def Keeps (source : Source World Scan) : Prop :=
  ∀ world scan next, source.Reaches scan -> source.advance world scan = (.ok true, next) ->
    ∃ entry, source.current next = some entry

/-- A store keeps the contract. -/
theorem keeps_ofStore
    (batchSize : Nat) :
    (ofStore batchSize).Keeps := by
  intro store scan next _ advanced
  simp only [ofStore, Prod.mk.injEq, Except.ok.injEq] at advanced
  obtain ⟨found, rfl⟩ := advanced
  exact Option.isSome_iff_exists.mp found

end Source

namespace GroupScan

variable {World Scan : Type} {source : Source World Scan}

/-- Whether a scan of a cursor is one that a source hands out. -/
def Reached (source : Source World Scan) : GroupScan Scan -> Prop
  | overRange scan => source.Reaches scan
  | atKey _ _ _ => True

theorem Reached.advance
    {scan : GroupScan Scan}
    (reached : scan.Reached source)
    (world : World) :
    (scan.advance source world).2.Reached source := by
  cases scan with
  | overRange scan => exact .stepped world reached
  | atKey key value isRead =>
      simp only [GroupScan.advance]
      split
      · exact trivial
      · split <;> exact trivial

/-- A step that claims an entry stands at one. -/
theorem exists_current
    {scan next : GroupScan Scan}
    {world : World}
    (keeps : source.Keeps)
    (reached : scan.Reached source)
    (advanced : scan.advance source world = (.ok true, next)) :
    ∃ entry, next.current source = some entry := by
  cases scan with
  | overRange scan =>
      obtain ⟨found, rfl⟩ := Prod.mk.inj advanced
      exact keeps world scan _ reached (Prod.ext found rfl)
  | atKey key value isRead =>
      simp only [GroupScan.advance] at advanced
      split at advanced
      · simp at advanced
      · split at advanced
        · simp at advanced
        · next found _ =>
            obtain ⟨present, rfl⟩ := Prod.mk.inj advanced
            obtain ⟨value, rfl⟩ := Option.isSome_iff_exists.mp (Except.ok.inj present)
            exact ⟨⟨key, value⟩, rfl⟩

/-- A step fails with an error of the source. -/
theorem reports_of_advance
    {scan next : GroupScan Scan}
    {world : World}
    {error : Error}
    (failed : scan.advance source world = (.error error, next)) :
    source.Reports error := by
  cases scan with
  | overRange scan =>
      obtain ⟨fault, _⟩ := Prod.mk.inj failed
      exact .stepping (Prod.ext fault rfl)
  | atKey key value isRead =>
      simp only [GroupScan.advance] at failed
      split at failed
      · simp at failed
      · split at failed
        · next fault =>
            obtain ⟨same, _⟩ := Prod.mk.inj failed
            exact .reading (Except.error.inj same ▸ fault)
        · simp at failed

/-! ## Readings -/

/-- What one more step reads, and the scan that is left.  None is left behind the
end; a step that fails leaves one. -/
def read (source : Source World Scan) (world : World) :
    Option (GroupScan Scan) -> Except Error (Option Entry) × Option (GroupScan Scan)
  | none => (.ok none, none)
  | some scan =>
      match scan.advance source world with
      | (.error error, next) => (.error error, some next)
      | (.ok false, _) => (.ok none, none)
      | (.ok true, next) => (.ok (next.current source), some next)

/-- What a step in each of some worlds reads. -/
def readings (source : Source World Scan) :
    List World -> Option (GroupScan Scan) -> List (Except Error (Option Entry))
  | [], _ => []
  | world :: worlds, scan =>
      let (reading, left) := read source world scan
      reading :: readings source worlds left

/-- The scan that is left by a step in each of some worlds. -/
def remainder (source : Source World Scan) (worlds : List World) (scan : Option (GroupScan Scan)) :
    Option (GroupScan Scan) :=
  worlds.foldl (fun left world => (read source world left).2) scan

theorem remainder_concat
    (worlds : List World)
    (world : World)
    (scan : Option (GroupScan Scan)) :
    remainder source (worlds ++ [world]) scan =
      (read source world (remainder source worlds scan)).2 := by
  simp [remainder]

theorem readings_concat
    (worlds : List World)
    (world : World)
    (scan : Option (GroupScan Scan)) :
    readings source (worlds ++ [world]) scan =
      readings source worlds scan ++ [(read source world (remainder source worlds scan)).1] := by
  induction worlds generalizing scan with
  | nil => rfl
  | cons first worlds inductionHypothesis =>
      simp only [List.cons_append, readings, inductionHypothesis]
      rfl

/-- Where nothing is left the end was read. -/
theorem read_of_left_none
    {world : World}
    {scan : Option (GroupScan Scan)}
    (left : (read source world scan).2 = none) :
    (read source world scan).1 = .ok none := by
  unfold read at left ⊢
  split <;> simp_all
  split <;> simp_all

theorem advance_of_read
    {world : World}
    {scan next : GroupScan Scan}
    {found : Option Entry}
    (reading : (read source world (some scan)).1 = .ok found)
    (left : (read source world (some scan)).2 = some next) :
    scan.advance source world = (.ok true, next) := by
  unfold read at reading left
  cases advanced : scan.advance source world with
  | mk outcome stepped =>
    match outcome with
    | .error error => simp [advanced] at reading
    | .ok false => simp [advanced] at left
    | .ok true =>
        simp only [advanced, Option.some.injEq] at left
        rw [left]

theorem reached_of_read
    {world : World}
    {scan : Option (GroupScan Scan)}
    {next : GroupScan Scan}
    (reached : ∀ before, scan = some before -> before.Reached source)
    (left : (read source world scan).2 = some next) :
    next.Reached source := by
  cases scan with
  | none => simp [read] at left
  | some before =>
      have stepped := (reached before rfl).advance world
      simp only [read] at left
      split at left
      · next advanced =>
          rw [advanced] at stepped
          exact Option.some.inj left ▸ stepped
      · simp at left
      · next advanced =>
          rw [advanced] at stepped
          exact Option.some.inj left ▸ stepped

theorem reached_of_remainder
    {worlds : List World}
    {scan : Option (GroupScan Scan)}
    {next : GroupScan Scan}
    (reached : ∀ before, scan = some before -> before.Reached source)
    (left : remainder source worlds scan = some next) :
    next.Reached source := by
  induction worlds generalizing scan with
  | nil => exact reached next left
  | cons world worlds inductionHypothesis =>
      exact inductionHypothesis (fun _ same => reached_of_read reached same) left

end GroupScan

/-! ## Answers to readings -/

namespace Group

/-- What a cursor over a group answers to a reading. -/
def answer (group : Group) : Except Error (Option Entry) -> Except Error (Option Row)
  | .error error => .error error
  | .ok none => .ok none
  | .ok (some entry) => (group.rowOfEntry entry).map some

end Group

namespace GroupScan

variable {World Scan : Type} {source : Source World Scan}

/-- What calls for the next row answer, each in a world of its own, for a scan
whose first step was taken in `opened`.  The first call takes no step: it answers
to what was read in `opened`. -/
def deliveries
    (source : Source World Scan)
    (group : Group)
    (scan : GroupScan Scan)
    (opened : World) : List World -> List (Except Error (Option Row))
  | [] => []
  | _ :: later => (readings source (opened :: later) (some scan)).map group.answer

theorem deliveries_concat
    {group : Group}
    {scan : GroupScan Scan}
    {opened : World}
    {worlds : List World}
    (called : worlds ≠ [])
    (world : World) :
    deliveries source group scan opened (worlds ++ [world]) =
      deliveries source group scan opened worlds ++ [group.answer
        (read source world (remainder source (opened :: worlds.tail) (some scan))).1] := by
  cases worlds with
  | nil => exact absurd rfl called
  | cons first later =>
      simp only [deliveries, List.cons_append, List.tail_cons]
      rw [← List.cons_append, readings_concat, List.map_append]
      rfl

end GroupScan
end Keyspace
