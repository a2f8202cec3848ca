import Keyspace.Proofs.HKey.Encoding
import Keyspace.Proofs.Schema.GroupTree
import Keyspace.Proofs.Tuple.ReaderSteps

/-!
# Decoded hierarchical keys

Whatever bytes are read as a key of a group, what comes out follows the joins of
the group from its root, with values that the key columns hold.
-/

namespace Keyspace

/-! ## Values that columns give -/

namespace Column

theorem admits_integerValue
    {dataType : DataType}
    {least greatest number : Int}
    (range : dataType.integerRange? = some (least, greatest))
    (above : least ≤ number)
    (below : number ≤ greatest) :
    dataType.admits (integerValue dataType number) = true := by
  cases dataType <;> simp only [DataType.integerRange?, Option.some.injEq, Prod.mk.injEq,
    reduceCtorEq] at range
  all_goals
    obtain ⟨rfl, rfl⟩ := range
    simp only [integerValue, DataType.admits, decide_eq_true_eq]
  · rw [Int32.toInt_ofInt_of_le (by omega) (by omega)]
    omega
  all_goals
    rw [UInt64.toNat_ofNat']
    omega

theorem admits_of_otherOfElement
    {column : Column}
    {element : Element}
    {value : Value}
    (given : column.otherOfElement element = .ok value) :
    column.dataType.admits value = true := by
  unfold otherOfElement at given
  split at given
  -- days and years are integers of a range
  case h_12 | h_16 =>
    rename_i isType
    split at given
    · obtain rfl := Except.ok.inj given
      rw [isType]
      rfl
    · simp at given
  case h_17 | h_18 | h_19 => simp at given
  all_goals
    rename_i isType
    obtain rfl := Except.ok.inj given
    rw [isType]
    rfl

/-- What a column gives it also takes. -/
theorem admits_of_valueOfElement
    {column : Column}
    {element : Element}
    {value : Value}
    (given : column.valueOfElement element = .ok value) :
    column.dataType.admits value = true := by
  unfold valueOfElement at given
  split at given
  · obtain rfl := Except.ok.inj given
    cases column.dataType <;> rfl
  · split at given
    · next least greatest range =>
        unfold integerOfElement at given
        split at given
        · simp at given
        · split at given
          · simp at given
          · obtain rfl := Except.ok.inj given
            exact admits_integerValue range (by omega) (by omega)
    · exact admits_of_otherOfElement given

end Column

/-! ## Steps of reading that succeed -/

namespace Decoder

theorem lift_eq_ok
    {α : Type}
    {step : Except Error α}
    {reader behind : Reader}
    {result : α} :
    HKey.lift step reader = .ok result behind ↔ step = .ok result ∧ reader = behind := by
  cases step <;>
    simp [HKey.lift, pure_eq_ok, throw_eq_error]

/-- A traversal that succeeds has taken a step for each result. -/
theorem forall₂_of_mapM
    {α β : Type}
    {step : α -> Decoder β}
    {inputs : List α}
    {results : List β}
    {reader behind : Reader}
    (ran : inputs.mapM step reader = .ok results behind) :
    List.Forall₂ (fun input result => ∃ before after, step input before = .ok result after)
      inputs results := by
  induction inputs generalizing reader behind results with
  | nil =>
      obtain ⟨rfl, _⟩ := pure_eq_ok.mp ran
      exact .nil
  | cons input inputs inductionHypothesis =>
      rw [List.mapM_cons] at ran
      obtain ⟨result, between, first, ran⟩ := bind_eq_ok.mp ran
      obtain ⟨others, _, further, whole⟩ := bind_eq_ok.mp ran
      obtain ⟨rfl, _⟩ := pure_eq_ok.mp whole
      exact .cons ⟨reader, between, first⟩ (inductionHypothesis further)

end Decoder

/-! ## Paths that are read -/

namespace HKey

theorem decodeValue_eq_ok
    {table : Table}
    {position : Nat}
    {value : Value}
    {reader behind : Reader}
    (read : decodeValue table position reader = .ok value behind) :
    ∃ column, table.columns[position]? = some column ∧ column.dataType.admits value = true := by
  cases found : table.columns[position]? with
  | none =>
      simp [decodeValue, found, Decoder.throw_eq_error] at read
  | some column =>
      simp only [decodeValue, found] at read
      obtain ⟨_, _, _, given⟩ := Decoder.bind_eq_ok.mp read
      exact ⟨column, rfl, Column.admits_of_valueOfElement (Decoder.lift_eq_ok.mp given).1⟩

theorem tableOfElement_eq_ok
    {group : Group}
    {position : Nat}
    {element : Element}
    {table : Table}
    (found : tableOfElement group position element = .ok table) :
    ∃ id, group.table? id = some table := by
  unfold tableOfElement at found
  split at found
  · dsimp only at found
    split at found
    · next same =>
        obtain rfl := Except.ok.inj found
        split at same
        · exact ⟨_, same⟩
        · simp at same
    · simp at found
  · simp at found

/-- A segment that is read follows the join to the segment above. -/
theorem decodeSegment_eq_ok
    {group : Group}
    {above : Option TableId}
    {segment : Segment}
    {reader behind : Reader}
    (numbered : group.Numbered)
    (read : decodeSegment group above reader = .ok segment behind) :
    FollowsJoins group above [segment] := by
  obtain ⟨_, _, _, read⟩ := Decoder.bind_eq_ok.mp read
  obtain ⟨element, _, _, read⟩ := Decoder.bind_eq_ok.mp read
  obtain ⟨table, _, found, read⟩ := Decoder.bind_eq_ok.mp read
  obtain ⟨id, found⟩ := tableOfElement_eq_ok (Decoder.lift_eq_ok.mp found).1
  obtain ⟨present, rfl⟩ := numbered.table?_eq_some.mp found
  split at read
  · simp [Decoder.throw_eq_error] at read
  · next isBelow =>
      obtain ⟨values, _, given, whole⟩ := Decoder.bind_eq_ok.mp read
      obtain ⟨rfl, _⟩ := Decoder.pure_eq_ok.mp whole
      have steps := Decoder.forall₂_of_mapM given
      refine ⟨⟨table, found, rfl, (not_not.mp isBelow).symm, steps.length_eq.symm, ?_⟩, trivial⟩
      intro pair paired
      obtain ⟨_, _, read⟩ := List.forall₂_iff_zip.mp steps |>.2 paired
      exact decodeValue_eq_ok read

theorem decodeSegments_eq_ok
    {group : Group}
    {steps : Nat}
    {above : Option TableId}
    {segments : List Segment}
    {reader behind : Reader}
    (numbered : group.Numbered)
    (read : decodeSegments group steps above reader = .ok segments behind) :
    FollowsJoins group above segments := by
  induction steps generalizing above segments reader behind with
  | zero =>
      obtain ⟨rfl, _⟩ := Decoder.pure_eq_ok.mp read
      exact trivial
  | succ steps inductionHypothesis =>
      obtain ⟨_, _, _, read⟩ := Decoder.bind_eq_ok.mp read
      split at read
      · obtain ⟨rfl, _⟩ := Decoder.pure_eq_ok.mp read
        exact trivial
      · obtain ⟨segment, _, first, read⟩ := Decoder.bind_eq_ok.mp read
        obtain ⟨others, _, further, whole⟩ := Decoder.bind_eq_ok.mp read
        obtain ⟨rfl, _⟩ := Decoder.pure_eq_ok.mp whole
        exact ⟨(decodeSegment_eq_ok numbered first).1, inductionHypothesis further⟩

/-- Every key that is read for a group is a path of it. -/
theorem rooted_of_decode
    {group : Group}
    {bytes : Bytes}
    {hkey : HKey}
    (numbered : group.Numbered)
    (read : decode group bytes = .ok hkey) :
    hkey.Rooted group := by
  unfold decode at read
  split at read
  · next segments _ ran =>
      obtain rfl := Except.ok.inj read
      exact decodeSegments_eq_ok numbered ran
  · simp at read

end HKey
end Keyspace
