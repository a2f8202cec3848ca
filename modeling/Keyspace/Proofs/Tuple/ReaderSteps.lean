import Keyspace.Proofs.Tuple.RoundTrip

/-!
# Steps of reading

Whatever bytes a step of reading is given, it stays inside them: what it reads
is at their beginning, a fault that it reports is at an offset inside them, and
what it gives is settled by the bytes that it reads and the one behind them.
This is kept when steps follow each other, so it holds of whole elements.
-/

namespace Keyspace
namespace Decoder

/-! ## Steps that end -/

theorem bind_eq_ok
    {α β : Type}
    {step : Decoder α}
    {next : α -> Decoder β}
    {reader behind : Reader}
    {result : β} :
    (step >>= next) reader = .ok result behind ↔
      ∃ middle between, step reader = .ok middle between ∧
        next middle between = .ok result behind := by
  cases ran : step reader <;> simp [bind, EStateM.bind, ran]

theorem bind_eq_error
    {α β : Type}
    {step : Decoder α}
    {next : α -> Decoder β}
    {reader behind : Reader}
    {error : Error} :
    (step >>= next) reader = .error error behind ↔
      step reader = .error error behind ∨
        ∃ middle between, step reader = .ok middle between ∧
          next middle between = .error error behind := by
  cases ran : step reader <;> simp [bind, EStateM.bind, ran]

theorem pure_eq_ok
    {α : Type}
    {value result : α}
    {reader behind : Reader} :
    (pure value : Decoder α) reader = .ok result behind ↔ value = result ∧ reader = behind := by
  simp [pure, EStateM.pure]

theorem throw_eq_error
    {α : Type}
    (error : Error)
    (reader : Reader) :
    (throw error : Decoder α) reader = .error error reader :=
  rfl

/-! ## What a step reads -/

/-- Whether a step, which may name the start of its element in errors, reads a
value off the first bytes that it is given: it reads the same value off all bytes
that begin with these and the one behind them. -/
structure ReadsOff
    {α : Type}
    (step : Nat -> Decoder α)
    (reader behind : Reader)
    (value : α)
    (consumed : Bytes) : Prop where
  /-- The bytes that are read stand in front of those that are left. -/
  split : reader.rest = consumed ++ behind.rest
  /-- The position counts the bytes that are read. -/
  moved : behind.position = reader.position + consumed.length
  /-- No byte beyond the next one matters, and no position. -/
  again : ∀ start position other,
    other.take (consumed.length + 1) = reader.rest.take (consumed.length + 1) ->
      step start ⟨position, other⟩ =
        .ok value ⟨position + consumed.length, other.drop consumed.length⟩

/-- Whether a step stays inside the bytes that it is given, and its values are of
a kind. -/
structure Sound {α : Type} (kind : α -> Prop) (step : Nat -> Decoder α) : Prop where
  /-- A step that succeeds reads a value of the kind off the first bytes. -/
  ok : ∀ {start reader value behind}, step start reader = .ok value behind ->
    kind value ∧ ∃ consumed, ReadsOff step reader behind value consumed
  /-- A step that fails names a fault that is not behind the bytes. -/
  error : ∀ {start reader error behind}, start ≤ reader.position ->
    step start reader = .error error behind ->
      ∃ position message, error = .tupleDecode position message ∧
        position ≤ reader.position + reader.rest.length

theorem ReadsOff.position_add_length
    {α : Type}
    {step : Nat -> Decoder α}
    {reader behind : Reader}
    {value : α}
    {consumed : Bytes}
    (reads : ReadsOff step reader behind value consumed) :
    behind.position + behind.rest.length = reader.position + reader.rest.length := by
  rw [reads.moved, reads.split, List.length_append]
  omega

namespace Sound

variable {α β : Type} {kind : α -> Prop} {further : β -> Prop}

theorem pure
    {value : α}
    (isKind : kind value) :
    Sound kind fun _ => Pure.pure value where
  ok ran := by
    obtain ⟨rfl, rfl⟩ := pure_eq_ok.mp ran
    exact ⟨isKind, [], rfl, rfl, fun _ _ _ _ => rfl⟩
  error _ ran := by simp [Pure.pure, EStateM.pure] at ran

theorem fail
    (message : String) :
    Sound kind fun start => Decoder.fail start message where
  ok ran := by simp [Decoder.fail, throw_eq_error] at ran
  error before ran := by
    obtain ⟨rfl, _⟩ := EStateM.Result.error.inj ran
    exact ⟨_, _, rfl, by omega⟩

theorem bind
    {step : Nat -> Decoder α}
    {next : α -> Nat -> Decoder β}
    (first : Sound kind step)
    (second : ∀ value, kind value -> Sound further (next value)) :
    Sound further fun start => step start >>= fun value => next value start where
  ok := by
    intro _ reader _ _ ran
    obtain ⟨middle, between, ranFirst, ranSecond⟩ := bind_eq_ok.mp ran
    obtain ⟨isKind, front, readsFirst⟩ := first.ok ranFirst
    obtain ⟨isFurther, back, readsSecond⟩ := (second middle isKind).ok ranSecond
    refine ⟨isFurther, front ++ back, ?_, ?_, ?_⟩
    · rw [readsFirst.split, readsSecond.split, List.append_assoc]
    · rw [readsSecond.moved, readsFirst.moved, List.length_append, Nat.add_assoc]
    · intro start position other same
      rw [List.length_append] at same
      -- The first step sees a part of what both see, and the second the rest of it.
      have sameFront : other.take (front.length + 1) =
          reader.rest.take (front.length + 1) := by
        have shorter := congrArg (List.take (front.length + 1)) same
        rwa [List.take_take, List.take_take, Nat.min_eq_left (by omega)] at shorter
      have sameBack : (other.drop front.length).take (back.length + 1) =
          between.rest.take (back.length + 1) := by
        have later := congrArg (List.drop front.length) same
        rwa [Nat.add_assoc, List.drop_take, List.drop_take, Nat.add_sub_cancel_left,
          readsFirst.split, List.drop_left] at later
      refine bind_eq_ok.mpr ⟨middle, _, readsFirst.again start position other sameFront, ?_⟩
      rw [readsSecond.again start _ _ sameBack, List.drop_drop, List.length_append,
        Nat.add_assoc]
  error before ran := by
    rcases bind_eq_error.mp ran with failed | ⟨middle, between, ranFirst, failed⟩
    · exact first.error before failed
    · obtain ⟨isKind, front, readsFirst⟩ := first.ok ranFirst
      have later : _ ≤ between.position := before.trans (by rw [readsFirst.moved]; omega)
      obtain ⟨position, message, rfl, inside⟩ := (second middle isKind).error later failed
      exact ⟨position, message, rfl, readsFirst.position_add_length ▸ inside⟩

theorem ite
    {condition : Prop}
    [Decidable condition]
    {left right : Nat -> Decoder α}
    (leftSound : Sound kind left)
    (rightSound : Sound kind right) :
    Sound kind fun start => if condition then left start else right start := by
  split <;> assumption

end Sound

/-! ## Bytes -/

theorem take_succ_eq_cons
    {count : Nat}
    {first : UInt8}
    {rest other : Bytes}
    (same : other.take (count + 1) = (first :: rest).take (count + 1)) :
    ∃ others, other = first :: others ∧ others.take count = rest.take count := by
  cases other with
  | nil => simp at same
  | cons second others =>
      obtain ⟨rfl, sameRest⟩ := List.cons.inj same
      exact ⟨others, rfl, sameRest⟩

theorem sound_byte :
    Sound (fun _ => True) fun _ => byte where
  ok := by
    rintro _ ⟨position, bytes⟩ value behind ran
    obtain _ | ⟨first, rest⟩ := bytes
    · cases ran
    · obtain ⟨rfl, rfl⟩ := EStateM.Result.ok.inj ran
      refine ⟨trivial, [first], rfl, rfl, fun _ position other same => ?_⟩
      obtain ⟨others, rfl, _⟩ := take_succ_eq_cons same
      rfl
  error := by
    rintro start ⟨position, bytes⟩ error behind _ ran
    obtain _ | ⟨first, rest⟩ := bytes
    · obtain ⟨rfl, _⟩ := EStateM.Result.error.inj ran
      exact ⟨_, _, rfl, Nat.le_refl _⟩
    · cases ran

theorem sound_take
    (count : Nat) :
    Sound (fun taken => taken.length = count) fun _ => take count where
  ok := by
    rintro _ ⟨position, bytes⟩ value behind ran
    unfold take at ran
    dsimp only at ran
    split at ran
    · next full =>
        obtain ⟨rfl, rfl⟩ := EStateM.Result.ok.inj ran
        refine ⟨full, bytes.take count, (List.take_append_drop count bytes).symm,
          by rw [full], fun _ position other same => ?_⟩
        rw [full] at same ⊢
        have sameTaken : other.take count = bytes.take count := by
          have shorter := congrArg (List.take count) same
          rwa [List.take_take, List.take_take, Nat.min_eq_left (Nat.le_succ count)] at shorter
        simp [take, sameTaken, full]
    · cases ran
  error := by
    rintro _ ⟨position, bytes⟩ error behind _ ran
    unfold take at ran
    dsimp only at ran
    split at ran
    · cases ran
    · obtain ⟨rfl, _⟩ := EStateM.Result.error.inj ran
      exact ⟨_, _, rfl, Nat.le_add_right _ _⟩

theorem length_of_take
    {count : Nat}
    {reader behind : Reader}
    {taken : Bytes}
    (ran : take count reader = .ok taken behind) :
    taken.length = count :=
  (@Sound.ok _ _ _ (sound_take count) 0 _ _ _ ran).1

theorem unescapeOnto_eq_ok
    {done content bytes : Bytes}
    {position : Nat}
    {behind : Reader}
    (ran : unescapeOnto done position bytes = .ok content behind) :
    ∃ consumed, ReadsOff (fun _ reader => unescapeOnto done reader.position reader.rest)
      ⟨position, bytes⟩ behind content consumed := by
  fun_induction unescapeOnto done position bytes with
  | case1 => cases ran
  | case2 done position =>
      obtain ⟨rfl, rfl⟩ := EStateM.Result.ok.inj ran
      refine ⟨[0], rfl, rfl, fun _ position other same => ?_⟩
      obtain ⟨others, rfl, sameRest⟩ := take_succ_eq_cons same
      obtain rfl : others = [] := by simpa using sameRest
      rfl
  | case3 done position beyond inductionHypothesis =>
      obtain ⟨consumed, split, moved, again⟩ := inductionHypothesis ran
      refine ⟨0 :: TypeCode.escape :: consumed, ?_, ?_, fun start position other same => ?_⟩
      · simpa using split
      · simp only [moved, List.length_cons]
        omega
      · obtain ⟨others, rfl, sameOthers⟩ := take_succ_eq_cons same
        obtain ⟨further, rfl, sameFurther⟩ := take_succ_eq_cons sameOthers
        have read := again start (position + 2) further sameFurther
        simp only [unescapeOnto, if_true] at read ⊢
        rw [read]
        simp
        omega
  | case4 done position next beyond notEscape =>
      obtain ⟨rfl, rfl⟩ := EStateM.Result.ok.inj ran
      refine ⟨[0], rfl, rfl, fun _ position other same => ?_⟩
      obtain ⟨others, rfl, sameRest⟩ := take_succ_eq_cons same
      obtain ⟨further, rfl, _⟩ := take_succ_eq_cons sameRest
      simp [unescapeOnto, notEscape]
  | case5 done position byte rest nonzero inductionHypothesis =>
      obtain ⟨consumed, split, moved, again⟩ := inductionHypothesis ran
      refine ⟨byte :: consumed, ?_, ?_, fun start position other same => ?_⟩
      · simpa using split
      · simp only [moved, List.length_cons]
        omega
      · obtain ⟨others, rfl, sameOthers⟩ := take_succ_eq_cons same
        have read := again start (position + 1) others sameOthers
        dsimp only at read ⊢
        rw [unescapeOnto_cons nonzero, read]
        simp
        omega

theorem unescapeOnto_eq_error
    {done bytes : Bytes}
    {position : Nat}
    {error : Error}
    {behind : Reader}
    (ran : unescapeOnto done position bytes = .error error behind) :
    ∃ offset message, error = .tupleDecode offset message ∧
      offset ≤ position + bytes.length := by
  fun_induction unescapeOnto done position bytes with
  | case1 =>
      obtain ⟨rfl, _⟩ := EStateM.Result.error.inj ran
      exact ⟨_, _, rfl, Nat.le_add_right _ _⟩
  | case2 => cases ran
  | case3 done position beyond inductionHypothesis =>
      obtain ⟨offset, message, rfl, inside⟩ := inductionHypothesis ran
      refine ⟨offset, message, rfl, ?_⟩
      simp only [List.length_cons]
      omega
  | case4 => cases ran
  | case5 done position byte rest nonzero inductionHypothesis =>
      obtain ⟨offset, message, rfl, inside⟩ := inductionHypothesis ran
      refine ⟨offset, message, rfl, ?_⟩
      simp only [List.length_cons]
      omega

theorem sound_escaped :
    Sound (fun _ => True) fun _ => escaped where
  ok ran := ⟨trivial, unescapeOnto_eq_ok ran⟩
  error _ ran := unescapeOnto_eq_error ran

/-! ## Digits -/

theorem digitsOnto_eq_ok
    {start position mantissa count : Nat}
    {negative : Bool}
    {bytes : Bytes}
    {collected : Nat × Nat}
    {behind : Reader}
    (inRange : mantissa ≤ maxCollected)
    (ran : digitsOnto start negative position mantissa count bytes = .ok collected behind) :
    collected.1 ≤ maxCollected ∧ collected.2 < count + bytes.length ∧
      ∃ consumed, ReadsOff
        (fun start reader =>
          digitsOnto start negative reader.position mantissa count reader.rest)
        ⟨position, bytes⟩ behind collected consumed := by
  fun_induction digitsOnto start negative position mantissa count bytes with
  | case1 => cases ran
  | case2 position mantissa count stored rest byte behind closes =>
      obtain ⟨rfl, rfl⟩ := EStateM.Result.ok.inj ran
      refine ⟨inRange, by simp, [stored], rfl, rfl, fun start position other same => ?_⟩
      obtain ⟨others, rfl, _⟩ := take_succ_eq_cons same
      rw [digitsOnto]
      exact if_pos closes
  | case3 => cases ran
  | case4 => cases ran
  | case5 position mantissa count stored rest byte notClosing isDigit longer fits
      inductionHypothesis =>
      obtain ⟨valueInRange, fewer, consumed, split, moved, again⟩ :=
        inductionHypothesis (Nat.le_of_not_lt fits) ran
      refine ⟨valueInRange, ?_, stored :: consumed, ?_, ?_, fun start position other same => ?_⟩
      · simp only [List.length_cons]
        omega
      · simpa using split
      · simp only [moved, List.length_cons]
        omega
      · obtain ⟨others, rfl, sameOthers⟩ := take_succ_eq_cons same
        have read := again start (position + 1) others sameOthers
        dsimp only at read ⊢
        rw [digitsOnto]
        refine (if_neg notClosing).trans ((if_neg isDigit).trans ((if_neg fits).trans ?_))
        rw [read]
        simp
        omega

theorem digitsOnto_eq_error
    {start position mantissa count : Nat}
    {negative : Bool}
    {bytes : Bytes}
    {error : Error}
    {behind : Reader}
    (before : start ≤ position)
    (ran : digitsOnto start negative position mantissa count bytes = .error error behind) :
    ∃ offset message, error = .tupleDecode offset message ∧
      offset ≤ position + bytes.length := by
  fun_induction digitsOnto start negative position mantissa count bytes with
  | case2 => cases ran
  | case5 position mantissa count stored rest byte notClosing isDigit longer fits
      inductionHypothesis =>
      obtain ⟨offset, message, rfl, inside⟩ := inductionHypothesis (by omega) ran
      refine ⟨offset, message, rfl, ?_⟩
      simp only [List.length_cons]
      omega
  | _ =>
      obtain ⟨rfl, _⟩ := EStateM.Result.error.inj ran
      exact ⟨_, _, rfl, by omega⟩

theorem sound_digits
    (negative : Bool) :
    Sound (fun collected => collected.1 ≤ maxCollected) fun start => digits start negative where
  ok ran :=
    have ⟨inRange, _, reads⟩ := digitsOnto_eq_ok (Nat.zero_le _) ran
    ⟨inRange, reads⟩
  error before ran := digitsOnto_eq_error before ran

/-- Fewer digits are counted than bytes are read. -/
theorem digits_count_lt
    {start : Nat}
    {negative : Bool}
    {reader behind : Reader}
    {mantissa count : Nat}
    (ran : digits start negative reader = .ok (mantissa, count) behind) :
    count < reader.rest.length := by
  simpa using (digitsOnto_eq_ok (Nat.zero_le _) ran).2.1

/-- What collected digits stand for does not depend on where they stood. -/
theorem assemble_ok_or_error
    (negative : Bool)
    (mantissa count : Nat)
    (exponent : Int) :
    (∃ number, ∀ start, assemble start negative mantissa count exponent = .ok number) ∨
      ∃ message, ∀ start, assemble start negative mantissa count exponent =
        .error (.tupleDecode start message) := by
  unfold assemble
  dsimp only
  split
  · exact .inr ⟨_, fun _ => rfl⟩
  · split
    · exact .inr ⟨_, fun _ => rfl⟩
    · split
      · exact .inr ⟨_, fun _ => rfl⟩
      · split
        · exact .inl ⟨_, fun _ => rfl⟩
        · exact .inr ⟨_, fun _ => rfl⟩

/-- Collected digits have no more places than a decimal without padding has. -/
theorem scale_of_assemble
    {start : Nat}
    {negative : Bool}
    {mantissa count : Nat}
    {exponent : Int}
    {number : Decimal}
    (assembled : assemble start negative mantissa count exponent = .ok number) :
    number.scale ≤ Decimal.maxScale := by
  have ofParts : ∀ mantissa scale, Decimal.ofParts? mantissa scale = some number ->
      number.scale ≤ Decimal.maxScale := by
    intro mantissa scale found
    unfold Decimal.ofParts? at found
    split at found
    · next inRange =>
        obtain rfl := Option.some.inj found
        exact inRange.2
    · cases found
  unfold assemble at assembled
  dsimp only at assembled
  split at assembled
  · cases assembled
  · split at assembled
    · cases assembled
    · split at assembled
      · cases assembled
      · split at assembled
        · next found =>
            obtain rfl := Except.ok.inj assembled
            exact ofParts _ _ found
        · cases assembled

end Decoder

/-! ## Elements -/

/-- Whether an element is as narrow as it can be and has a packed form.  A decimal
is not padded. -/
def Element.IsNarrow : Element -> Prop
  | bigInteger number =>
      fitsInt64 number = false ∧ Bytes.byteLength number.natAbs ≤ maxMagnitudeBytes
  | decimal number => number.scale ≤ Decimal.maxScale
  | _ => True

theorem Element.isNarrow_ofInt
    {number : Int}
    (short : Bytes.byteLength number.natAbs ≤ maxMagnitudeBytes) :
    (ofInt number).IsNarrow := by
  unfold ofInt
  split
  · exact trivial
  · next wide => exact ⟨Bool.not_eq_true _ ▸ wide, short⟩

namespace Decoder

open Element (IsNarrow)

theorem sound_integer
    (negative : Bool)
    {count : Nat}
    (short : count ≤ Element.maxMagnitudeBytes) :
    Sound IsNarrow fun _ => integer negative count := by
  refine (sound_take count).bind fun stored length => .pure (Element.isNarrow_ofInt ?_)
  have bound : Bytes.toNat (if negative then Bytes.complement stored else stored) <
      256 ^ count := by
    have below := Bytes.toNat_lt_pow (if negative then Bytes.complement stored else stored)
    rwa [show (if negative then Bytes.complement stored else stored).length = count by
      split <;> simp [length]] at below
  refine ((Bytes.byteLength_le_iff _ count).mpr ?_).trans short
  cases negative <;> simpa using bound

theorem sound_collected
    (negative : Bool)
    (mantissa count : Nat)
    (exponent : Int) :
    Sound IsNarrow fun start =>
      match assemble start negative mantissa count exponent with
      | .ok number => Pure.pure (Element.decimal number)
      | .error error => throw error := by
  rcases assemble_ok_or_error negative mantissa count exponent with
    ⟨number, assembled⟩ | ⟨message, failed⟩
  · simp only [assembled]
    exact .pure (scale_of_assemble (assembled 0))
  · simp only [failed]
    exact .fail message

theorem sound_decimal :
    Sound IsNarrow decimal :=
  sound_byte.bind fun _ _ =>
    .ite (.pure (Nat.zero_le _))
      (.ite
        (sound_byte.bind fun _ _ =>
          (sound_digits _).bind fun (mantissa, count) _ =>
            sound_collected _ mantissa count _)
        (.fail _))

theorem toNat_le_maxMagnitudeBytes
    (length : UInt8) :
    length.toNat ≤ Element.maxMagnitudeBytes :=
  Nat.le_of_lt_succ length.toNat_lt

/-- Whatever stands behind a type code, an element that is read from it is narrow
and comes off the bytes behind the code. -/
theorem sound_value
    (code : UInt8) :
    Sound IsNarrow fun start => value start code := by
  have short (negative : Bool) (length : UInt8) :
      Sound IsNarrow fun _ => integer negative length.toNat :=
    sound_integer negative (toNat_le_maxMagnitudeBytes length)
  unfold value
  refine .ite (.pure trivial) ?_
  refine .ite (sound_escaped.bind fun _ _ => .pure trivial) ?_
  refine .ite (sound_escaped.bind fun stored _ => ?text) ?_
  case text =>
    cases Utf8.decode? stored with
    | none => exact .fail _
    | some text => exact .pure trivial
  refine .ite (sound_byte.bind fun length _ => short true (~~~length)) ?_
  refine .ite (short true _) ?_
  refine .ite (.pure trivial) ?_
  refine .ite (short false _) ?_
  refine .ite (sound_byte.bind fun length _ => short false length) ?_
  refine .ite ((sound_take 4).bind fun _ _ => .pure trivial) ?_
  refine .ite ((sound_take 8).bind fun _ _ => .pure trivial) ?_
  refine .ite (.pure trivial) ?_
  refine .ite (.pure trivial) ?_
  refine .ite ((sound_take 16).bind fun stored _ => ?identifier) ?_
  case identifier =>
    cases Uuid.ofBytes? stored with
    | none => exact .fail _
    | some identifier => exact .pure trivial
  exact .ite sound_decimal (.fail _)

/-- An element that is read is narrow, and its bytes begin with its type code. -/
theorem reads_element
    {reader behind : Reader}
    {result : Element}
    (ran : element reader = .ok result behind) :
    result.IsNarrow ∧
      ∃ code consumed, ReadsOff (fun _ => element) reader behind result (code :: consumed) := by
  obtain ⟨position, _ | ⟨code, rest⟩⟩ := reader
  · cases ran
  · rw [element_cons] at ran
    obtain ⟨narrow, consumed, split, moved, again⟩ := (sound_value code).ok ran
    refine ⟨narrow, code, consumed, congrArg (code :: ·) split, ?_,
      fun start position other same => ?_⟩
    · simp only [moved, List.length_cons]
      omega
    · obtain ⟨others, rfl, sameOthers⟩ := take_succ_eq_cons same
      rw [element_cons, again position (position + 1) others sameOthers]
      simp
      omega

theorem element_eq_error
    {reader behind : Reader}
    {error : Error}
    (ran : element reader = .error error behind) :
    ∃ position message, error = .tupleDecode position message ∧
      position ≤ reader.position + reader.rest.length := by
  obtain ⟨position, _ | ⟨code, rest⟩⟩ := reader
  · obtain ⟨rfl, _⟩ := EStateM.Result.error.inj ran
    exact ⟨_, _, rfl, Nat.le_refl _⟩
  · rw [element_cons] at ran
    obtain ⟨offset, message, rfl, inside⟩ := (sound_value code).error (Nat.le_succ _) ran
    refine ⟨offset, message, rfl, ?_⟩
    simp only [List.length_cons] at inside ⊢
    omega

theorem elementsOnto_ok_or_error
    (done : List Element)
    (steps : Nat)
    (reader : Reader) :
    (∃ read behind, elementsOnto done steps reader = .ok (done.reverse ++ read) behind ∧
        ∀ element ∈ read, element.IsNarrow) ∨
      ∃ position message behind,
        elementsOnto done steps reader = .error (.tupleDecode position message) behind ∧
          position ≤ reader.position + reader.rest.length := by
  induction steps generalizing done reader with
  | zero => exact .inl ⟨[], reader, by simp [elementsOnto, pure, EStateM.pure], by simp⟩
  | succ steps inductionHypothesis =>
      by_cases atEnd : reader.rest = []
      · obtain ⟨position, rest⟩ := reader
        obtain rfl : rest = [] := atEnd
        exact .inl ⟨[], _, by rw [elementsOnto_nil, List.append_nil], by simp⟩
      · rw [elementsOnto_succ atEnd]
        cases ran : element reader with
        | ok next between =>
            obtain ⟨narrow, code, consumed, reads⟩ := reads_element ran
            rw [bind_of_ok ran, ← reads.position_add_length]
            refine (inductionHypothesis (next :: done) between).imp_left ?_
            rintro ⟨read, behind, whole, narrowOthers⟩
            refine ⟨next :: read, behind, ?_, List.forall_mem_cons.mpr ⟨narrow, narrowOthers⟩⟩
            rw [whole, List.reverse_cons, List.append_assoc, List.singleton_append]
        | error error behind =>
            obtain ⟨position, message, rfl, inside⟩ := element_eq_error ran
            exact .inr ⟨position, message, behind, bind_eq_error.mpr (.inl ran), inside⟩

end Decoder

/-! ## Whole tuples -/

/-- A byte string is a tuple of narrow elements, or the fault that is named is at
an offset inside it. -/
theorem Tuple.unpack_ok_or_error
    (bytes : Bytes) :
    (∃ tuple, unpack bytes = .ok tuple ∧ ∀ element ∈ tuple, element.IsNarrow) ∨
      ∃ position message, unpack bytes = .error (.tupleDecode position message) ∧
        position ≤ bytes.length := by
  rw [unpack]
  rcases Decoder.elementsOnto_ok_or_error [] bytes.length (Reader.start bytes) with
    ⟨read, behind, whole, narrow⟩ | ⟨position, message, behind, failed, inside⟩
  · exact .inl ⟨read, by simp [whole], narrow⟩
  · refine .inr ⟨position, message, by simp [failed], ?_⟩
    simpa [Reader.start] using inside

end Keyspace
