import Keyspace.Proofs.Tuple.ReaderSteps
import Keyspace.Tuple.GuardedReader

/-!
# The reader in machine words

In bytes that are too few for more digits than can be counted, the reader in machine
words ends as the plain reader does, wherever it starts, so no operation of it is at
fault: it takes no slice and no difference out of range, it goes out of no loop, and a
power or a product that does not fit is an error of the bytes.  The shortest bytes that
are not too few make it count the places of a decimal beyond 32 bits.
-/

namespace Keyspace

namespace Decoder

/-- Behind what was read off the bytes from a position, the reader stands at a
position of the same bytes. -/
theorem ReadsOff.behind_eq
    {α : Type}
    {step : Nat -> Decoder α}
    {bytes consumed : Bytes}
    {position : Nat}
    {behind : Reader}
    {value : α}
    (reads : ReadsOff step ⟨position, bytes.drop position⟩ behind value consumed)
    (inside : position ≤ bytes.length) :
    behind.position ≤ bytes.length ∧ behind.rest = bytes.drop behind.position := by
  have lengths := reads.position_add_length
  have split := congrArg (List.drop consumed.length) reads.split
  rw [List.drop_left, List.drop_drop] at split
  simp only [List.length_drop] at lengths
  refine ⟨by omega, ?_⟩
  rw [← split, reads.moved]

end Decoder

namespace Guarded

variable {α β : Type} {bytes : Bytes}

/-- How a plain step ends, said by the position alone. -/
def ended : EStateM.Result Error Reader α -> EStateM.Result Stop Nat α
  | .ok value behind => .ok value behind.position
  | .error error behind => .error (.error error) behind.position

/-- How many bytes it takes to hold more digits than can be counted: beside the digits a
decimal has its type code, its sign, its exponent and its end. -/
def uncountedBytes : Nat := 0x80000000 - 0x80 + 4

/-- Whether a guarded step ends as the plain one from every position of the bytes but the
first few. -/
def Agrees
    (bytes : Bytes)
    (first : Nat)
    (guarded : Nat -> Guarded α)
    (step : Nat -> Decoder α) : Prop :=
  ∀ start position, first ≤ position -> position ≤ bytes.length ->
    guarded start bytes position = ended (step start ⟨position, bytes.drop position⟩)

/-- Whether a step gives a value somewhere behind the first few bytes. -/
def Gives (bytes : Bytes) (first : Nat) (step : Nat -> Decoder α) (value : α) : Prop :=
  ∃ start position behind, first ≤ position ∧ position ≤ bytes.length ∧
    step start ⟨position, bytes.drop position⟩ = .ok value behind

/-! ## Running guarded steps -/

theorem bind_eq
    (step : Guarded α)
    (next : α -> Guarded β)
    (position : Nat) :
    (step >>= next) bytes position =
      match step bytes position with
      | .ok value behind => next value bytes behind
      | .error stop behind => .error stop behind := by
  cases ran : step bytes position <;> simp [bind, ReaderT.bind, EStateM.bind, ran]

theorem pure_eq
    (value : α)
    (position : Nat) :
    (pure value : Guarded α) bytes position = .ok value position := rfl

theorem throw_eq
    (stop : Stop)
    (position : Nat) :
    (throw stop : Guarded α) bytes position = .error stop position := rfl

theorem read_eq
    (position : Nat) :
    (read : Guarded Bytes) bytes position = .ok bytes position := rfl

theorem get_eq
    (position : Nat) :
    (get : Guarded Nat) bytes position = .ok position position := rfl

theorem set_eq
    (behind position : Nat) :
    (set behind : Guarded Unit) bytes position = .ok () behind := rfl

theorem difference_eq
    {left right : Nat}
    (notBelow : right ≤ left)
    (position : Nat) :
    difference left right bytes position = .ok (left - right) position := by
  simp only [difference, if_pos notBelow, pure_eq]

theorem slice_eq
    {first behind : Nat}
    (ordered : first ≤ behind)
    (inside : behind ≤ bytes.length)
    (position : Nat) :
    slice first behind bytes position =
      .ok ((bytes.drop first).take (behind - first)) position := by
  simp only [slice, bind_eq, read_eq, if_pos (And.intro ordered inside), pure_eq]

namespace Agrees

variable {first : Nat}

theorem pure
    (value : α) :
    Agrees bytes first (fun _ => Pure.pure value) fun _ => Pure.pure value :=
  fun _ _ _ _ => rfl

theorem fail
    (message : String) :
    Agrees bytes first (fun start => Guarded.fail (α := α) start message) fun start =>
      Decoder.fail start message :=
  fun _ _ _ _ => rfl

theorem ite
    {condition : Prop}
    [Decidable condition]
    {guardedLeft guardedRight : Nat -> Guarded α}
    {left right : Nat -> Decoder α}
    (leftAgrees : condition -> Agrees bytes first guardedLeft left)
    (rightAgrees : ¬ condition -> Agrees bytes first guardedRight right) :
    Agrees bytes first
      (fun start => if condition then guardedLeft start else guardedRight start)
      fun start => if condition then left start else right start := by
  split <;> solve_by_elim

theorem bind
    {kind : α -> Prop}
    {guarded : Nat -> Guarded α}
    {step : Nat -> Decoder α}
    {guardedNext : α -> Nat -> Guarded β}
    {next : α -> Nat -> Decoder β}
    (sound : Decoder.Sound kind step)
    (ends : Agrees bytes first guarded step)
    (second : ∀ value, Gives bytes first step value ->
      Agrees bytes first (guardedNext value) (next value)) :
    Agrees bytes first (fun start => guarded start >>= fun value => guardedNext value start)
      fun start => step start >>= fun value => next value start := by
  intro start position above inside
  dsimp only
  rw [bind_eq, ends start position above inside]
  cases ran : step start ⟨position, bytes.drop position⟩ with
  | ok value behind =>
      obtain ⟨_, _, reads⟩ := sound.ok ran
      obtain ⟨stillInside, rest⟩ := reads.behind_eq inside
      have further : position ≤ behind.position :=
        (Nat.le_add_right _ _).trans_eq reads.moved.symm
      rw [Decoder.bind_of_ok ran,
        show behind = ⟨behind.position, bytes.drop behind.position⟩ by rw [← rest]]
      exact second value ⟨start, position, behind, above, inside, ran⟩ start _
        (above.trans further) stillInside
  | error error behind =>
      rw [Decoder.bind_eq_error.mpr (.inl ran)]
      rfl

end Agrees

/-- A number that fits a word is counted. -/
theorem count_bind
    {number : Int}
    (least : -0x80000000 ≤ number)
    (greatest : number < 0x80000000)
    (next : Unit -> Guarded β)
    (position : Nat) :
    (count number >>= next) bytes position = next () bytes position := by
  rw [bind_eq, count, if_pos ⟨least, greatest⟩, pure_eq]

/-- A number that is too great for a word is a fault. -/
theorem count_bind_of_le
    {number : Int}
    (great : 0x80000000 ≤ number)
    (next : Unit -> Guarded β)
    (position : Nat) :
    (count number >>= next) bytes position = .error (.fault .count) position := by
  rw [bind_eq, count, if_neg (by omega), throw_eq]

/-! ## Bytes -/

theorem byte_eq
    (position : Nat) :
    byte bytes position =
      match bytes[position]? with
      | some found => .ok found (position + 1)
      | none => .error (.error (.tupleDecode position "unexpected end of tuple")) position := by
  simp only [byte, bind_eq, get_eq, read_eq]
  cases bytes[position]? <;> rfl

theorem byte_ends
    {position : Nat}
    (inside : position ≤ bytes.length) :
    byte bytes position = ended (Decoder.byte ⟨position, bytes.drop position⟩) := by
  rw [byte_eq]
  rcases inside.lt_or_eq with before | atEnd
  · rw [List.drop_eq_getElem_cons before, List.getElem?_eq_getElem before]
    rfl
  · rw [atEnd, List.drop_length, List.getElem?_eq_none (Nat.le_refl _)]
    rfl

/-- Behind a byte there is one byte more that the position has left behind. -/
theorem Agrees.byte_bind
    {first : Nat}
    {guardedNext : UInt8 -> Nat -> Guarded β}
    {next : UInt8 -> Nat -> Decoder β}
    (second : ∀ value, Agrees bytes (first + 1) (guardedNext value) (next value)) :
    Agrees bytes first (fun start => byte >>= fun value => guardedNext value start)
      fun start => Decoder.byte >>= fun value => next value start := by
  intro start position above inside
  dsimp only
  rw [bind_eq, byte_ends inside]
  rcases inside.lt_or_eq with before | atEnd
  · rw [List.drop_eq_getElem_cons before, Decoder.bind_of_ok (Decoder.byte_cons _ _ _),
      Decoder.byte_cons]
    exact second _ start _ (Nat.succ_le_succ above) before
  · rw [atEnd, List.drop_length]
    rfl

theorem take_ends
    {position : Nat}
    (inside : position ≤ bytes.length)
    (count : Nat) :
    take count bytes position = ended (Decoder.take count ⟨position, bytes.drop position⟩) := by
  have length : ((bytes.drop position).take count).length =
      min count (bytes.length - position) := by simp
  simp only [take, Decoder.take, bind_eq, get_eq, read_eq]
  split
  · next tooFar =>
      rw [bind_eq, difference_eq inside, if_neg (by omega),
        show ((bytes.drop position).take count).length = bytes.length - position by omega]
      rfl
  · next fits =>
      rw [bind_eq, slice_eq (Nat.le_add_right _ _) (Nat.le_of_not_lt fits),
        if_pos (by omega), Nat.add_sub_cancel_left, List.drop_drop]
      rfl

theorem array_ends
    {position : Nat}
    (inside : position ≤ bytes.length)
    (length : Nat) :
    array length bytes position =
      ended (Decoder.take length ⟨position, bytes.drop position⟩) := by
  rw [array, bind_eq, take_ends inside]
  cases ran : Decoder.take length ⟨position, bytes.drop position⟩ with
  | ok taken behind =>
      have full := Decoder.length_of_take ran
      simp only [ended, if_pos full, pure_eq]
  | error error behind => rfl

theorem array_agrees
    (first length : Nat) :
    Agrees bytes first (fun _ => array length) fun _ => Decoder.take length :=
  fun _ _ _ inside => array_ends inside length

/-- The rounds are enough, since each takes a byte. -/
theorem unescapeOnto_ends
    {position steps : Nat}
    (inside : position ≤ bytes.length)
    (enough : bytes.length < position + steps)
    (done : Bytes) :
    unescapeOnto done steps bytes position =
      ended (Decoder.unescapeOnto done position (bytes.drop position)) := by
  induction steps generalizing done position with
  | zero => omega
  | succ steps inductionHypothesis =>
      rw [unescapeOnto, bind_eq, byte_eq]
      rcases inside.lt_or_eq with before | atEnd
      · rw [List.drop_eq_getElem_cons before, List.getElem?_eq_getElem before]
        dsimp only
        split
        · next zero =>
            simp only [bind_eq, get_eq, read_eq]
            rcases (Nat.succ_le_of_lt before).lt_or_eq with more | last
            · rw [List.drop_eq_getElem_cons more, List.getElem?_eq_getElem more]
              simp only [Decoder.unescapeOnto, if_pos zero, Option.some.injEq]
              split
              · rw [bind_eq, set_eq]
                exact inductionHypothesis more (by omega) _
              · rfl
            · rw [List.drop_of_length_le (by omega), List.getElem?_eq_none (by omega),
                if_neg (by simp), Decoder.unescapeOnto, if_pos zero]
              rfl
        · next nonzero =>
            rw [Decoder.unescapeOnto_cons nonzero]
            exact inductionHypothesis before (by omega) _
      · rw [atEnd, List.drop_length, List.getElem?_eq_none (Nat.le_refl _)]
        rfl

theorem escaped_ends
    {position : Nat}
    (inside : position ≤ bytes.length) :
    escaped bytes position = ended (Decoder.escaped ⟨position, bytes.drop position⟩) := by
  simp only [escaped, bind_eq, read_eq]
  exact unescapeOnto_ends inside (by omega) []

theorem escaped_agrees
    (first : Nat) :
    Agrees bytes first (fun _ => escaped) fun _ => Decoder.escaped :=
  fun _ _ _ inside => escaped_ends inside

/-! ## Decimals -/

theorem sum?_product?
    (mantissa digit : Nat) :
    ((product? mantissa 10).bind fun tenfold => sum? tenfold digit) =
      if Decoder.maxCollected < mantissa * 10 + digit then none
      else some (mantissa * 10 + digit) := by
  unfold product? sum? Decoder.maxCollected
  split_ifs <;> simp <;> omega

/-- Each digit that is counted took a byte. -/
theorem digitsOnto_ends
    {position steps : Nat}
    (short : bytes.length < uncountedBytes)
    (inside : position ≤ bytes.length)
    (enough : bytes.length < position + steps)
    (start : Nat)
    (negative : Bool)
    {mantissa count : Nat}
    (taken : count ≤ position) :
    digitsOnto start negative mantissa count steps bytes position =
      ended (Decoder.digitsOnto start negative position mantissa count
        (bytes.drop position)) := by
  induction steps generalizing position mantissa count with
  | zero => omega
  | succ steps inductionHypothesis =>
      rw [digitsOnto, bind_eq, byte_eq]
      rcases inside.lt_or_eq with before | atEnd
      · rw [List.drop_eq_getElem_cons before, List.getElem?_eq_getElem before,
          Decoder.digitsOnto]
        dsimp only
        generalize (if negative = true then ~~~bytes[position] else bytes[position]) = byte
        by_cases closes : byte = 0
        · rw [if_pos closes, if_pos closes]
          rfl
        rw [if_neg closes, if_neg closes]
        by_cases bad : 10 < byte
        · rw [if_pos bad, if_pos bad]
          rfl
        have notBelow : 1 ≤ byte.toNat :=
          Nat.one_le_iff_ne_zero.mpr fun zero => closes (UInt8.toNat_inj.mp zero)
        rw [if_neg bad, if_neg bad, bind_eq, difference_eq notBelow]
        dsimp only
        rw [sum?_product?]
        by_cases tooLong : Decoder.maxCollected < mantissa * 10 + (byte.toNat - 1)
        · rw [if_pos tooLong, if_pos tooLong]
          rfl
        rw [if_neg tooLong, if_neg tooLong]
        dsimp only
        rw [count_bind (by omega) (by unfold uncountedBytes at short; omega)]
        exact inductionHypothesis before (by omega) (Nat.succ_le_succ taken)
      · rw [atEnd, List.drop_length, List.getElem?_eq_none (Nat.le_refl _)]
        rfl

theorem digits_agrees
    (short : bytes.length < uncountedBytes)
    (first : Nat)
    (negative : Bool) :
    Agrees bytes first (fun start => digits start negative) fun start =>
      Decoder.digits start negative := by
  intro start position _ inside
  simp only [digits, bind_eq, read_eq]
  exact digitsOnto_ends short inside (by omega) start negative (Nat.zero_le _)

theorem product?_power?
    (mantissa exponent : Nat) :
    ((power? exponent).bind fun factor => product? mantissa factor) =
      if Decoder.maxCollected < 10 ^ exponent ∨
          Decoder.maxCollected < mantissa * 10 ^ exponent then none
      else some (mantissa * 10 ^ exponent) := by
  unfold product? power? Decoder.maxCollected
  rw [Nat.pow_eq]
  split_ifs <;> simp <;> omega

theorem scaled_eq
    {mantissa : Nat}
    (inRange : mantissa ≤ Decoder.maxCollected)
    (start : Nat)
    (places : Int)
    (position : Nat) :
    scaled start mantissa places bytes position =
      if Decoder.maxCollected < 10 ^ (-places).toNat ∨
          Decoder.maxCollected < mantissa * 10 ^ (-places).toNat then
        .error (.error (.tupleDecode start "decimal exponent out of range")) position
      else .ok (mantissa * 10 ^ (-places).toNat, places.toNat) position := by
  unfold scaled
  by_cases negative : places < 0
  · rw [if_pos negative, show places.natAbs = (-places).toNat by omega,
      show places.toNat = 0 by omega, product?_power?]
    split <;> rfl
  · rw [if_neg negative, show (-places).toNat = 0 by omega, pow_zero, Nat.mul_one,
      if_neg (by unfold Decoder.maxCollected at *; omega), pure_eq]

theorem signed_eq
    {mantissa : Nat}
    (inRange : mantissa ≤ Decoder.maxCollected)
    (negative : Bool)
    (position : Nat) :
    signed negative mantissa bytes position =
      .ok (if negative then -(mantissa : Int) else mantissa) position := by
  unfold Decoder.maxCollected at inRange
  cases negative with
  | false => rfl
  | true =>
      simp only [signed, negation, if_true]
      rw [if_pos (by omega), pure_eq]

/-- The places of a decimal are counted where four more bytes than its digits are too few
for digits that are not. -/
theorem assemble_agrees
    (short : bytes.length < uncountedBytes)
    (first : Nat)
    (negative : Bool)
    {mantissa count : Nat}
    (inRange : mantissa ≤ Decoder.maxCollected)
    (held : count + 4 ≤ bytes.length)
    {exponent : Int}
    (least : -0x80 ≤ exponent)
    (greatest : exponent ≤ 0x80) :
    Agrees bytes first (fun start => assemble start negative mantissa count exponent) fun start =>
      match Decoder.assemble start negative mantissa count exponent with
      | .ok number => Pure.pure (Element.decimal number)
      | .error error => throw error := by
  intro start position _ _
  dsimp only
  unfold uncountedBytes at short
  by_cases none : count = 0
  · simp only [assemble, Decoder.assemble, if_pos none]
    rfl
  unfold assemble Decoder.assemble
  dsimp only
  rw [if_neg none, if_neg none, count_bind (by omega) (by omega), bind_eq, scaled_eq inRange]
  generalize (count : Int) - exponent = places
  rw [Nat.pow_eq]
  by_cases tooFar : Decoder.maxCollected < 10 ^ (-places).toNat ∨
      Decoder.maxCollected < mantissa * 10 ^ (-places).toNat
  · rw [if_pos tooFar, if_pos tooFar]
    rfl
  rw [if_neg tooFar, if_neg tooFar]
  dsimp only
  by_cases tooFine : Decimal.maxScale < places.toNat
  · rw [if_pos tooFine, if_pos (Int.lt_toNat.mp tooFine)]
    rfl
  rw [if_neg tooFine, if_neg (mt Int.lt_toNat.mpr tooFine), bind_eq,
    signed_eq (Nat.le_of_not_lt fun above => tooFar (.inr above))]
  dsimp only
  generalize (if negative = true then (_ : Int) else _) = number
  cases Decimal.ofParts? number places.toNat <;> rfl

/-- A count that fits is no fault. -/
theorem Agrees.counted
    {first : Nat}
    {number : Int}
    {guarded : Nat -> Guarded α}
    {step : Nat -> Decoder α}
    (least : -0x80000000 ≤ number)
    (greatest : number < 0x80000000)
    (agrees : Agrees bytes first guarded step) :
    Agrees bytes first (fun start => count number >>= fun _ => guarded start) step := by
  intro start position above inside
  dsimp only
  rw [count_bind least greatest]
  exact agrees start position above inside

/-- The type code, the sign and the exponent stand in front of the digits of a decimal. -/
theorem decimal_agrees
    (short : bytes.length < uncountedBytes) :
    Agrees bytes 1 decimal Decoder.decimal := by
  refine .byte_bind fun sign => ?_
  refine .ite (fun _ => .pure _) fun _ => .ite (fun _ => ?_) fun _ => .fail _
  refine .byte_bind fun stored => ?_
  generalize decide (sign = TypeCode.decimalNegative) = negative
  have small : ((if negative then ~~~stored else stored).toNat : Int) < 0x100 := by
    exact_mod_cast UInt8.toNat_lt _
  refine .counted ?_ ?_ (.bind (Decoder.sound_digits negative)
    (digits_agrees short _ negative) fun found given => ?_)
  · unfold TypeCode.decimalBias
    omega
  · unfold TypeCode.decimalBias
    omega
  · obtain ⟨start, position, behind, above, inside, ran⟩ := given
    have held := Decoder.digits_count_lt ran
    rw [List.length_drop] at held
    refine assemble_agrees short _ negative ((Decoder.sound_digits negative).ok ran).1
      (by omega) ?_ ?_
    · unfold TypeCode.decimalBias
      omega
    · unfold TypeCode.decimalBias
      omega

/-! ## Elements -/

theorem integer_agrees
    (first : Nat)
    (negative : Bool)
    (count : Nat) :
    Agrees bytes first (fun _ => integer negative count) fun _ =>
      Decoder.integer negative count :=
  .bind (Decoder.sound_take count) (fun _ _ _ inside => take_ends inside count)
    fun _ _ => .pure _

/-- A difference that is not below zero is no fault. -/
theorem Agrees.lessened
    {first left right : Nat}
    {guarded : Nat -> Nat -> Guarded α}
    {step : Nat -> Decoder α}
    (notBelow : right ≤ left)
    (agrees : Agrees bytes first (guarded (left - right)) step) :
    Agrees bytes first
      (fun start => difference left right >>= fun number => guarded number start) step := by
  intro start position above inside
  dsimp only
  rw [bind_eq, difference_eq notBelow]
  exact agrees start position above inside

/-- The length in a type code is the distance from the code of zero. -/
theorem length_agrees
    (first : Nat)
    (negative : Bool)
    {left right : UInt8}
    (less : right < left) :
    Agrees bytes first
      (fun _ => difference left.toNat right.toNat >>= fun count => integer negative count)
      fun _ => Decoder.integer negative (left - right).toNat := by
  have notBelow : right.toNat ≤ left.toNat := (UInt8.lt_iff_toNat_lt.mp less).le
  rw [UInt8.toNat_sub_of_le _ _ notBelow]
  exact .lessened notBelow (integer_agrees first negative _)

theorem value_agrees
    (short : bytes.length < uncountedBytes)
    (code : UInt8) :
    Agrees bytes 1 (fun start => value start code) fun start => Decoder.value start code := by
  unfold value Decoder.value
  refine .ite (fun _ => .pure _) fun _ => ?_
  refine .ite (fun _ => .bind Decoder.sound_escaped (escaped_agrees 1) fun _ _ => .pure _)
    fun _ => ?_
  refine .ite (fun _ => .bind Decoder.sound_escaped (escaped_agrees 1) fun stored _ => ?text)
    fun _ => ?_
  case text =>
    cases Utf8.decode? stored with
    | none => exact .fail _
    | some text => exact .pure _
  refine .ite (fun _ => .byte_bind fun _ => integer_agrees _ true _) fun _ => ?_
  refine .ite (fun between => length_agrees 1 true between.2) fun _ => ?_
  refine .ite (fun _ => .pure _) fun _ => ?_
  refine .ite (fun between => length_agrees 1 false between.1) fun _ => ?_
  refine .ite (fun _ => .byte_bind fun _ => integer_agrees _ false _) fun _ => ?_
  refine .ite (fun _ => .bind (Decoder.sound_take 4) (array_agrees 1 4) fun _ _ => .pure _)
    fun _ => ?_
  refine .ite (fun _ => .bind (Decoder.sound_take 8) (array_agrees 1 8) fun _ _ => .pure _)
    fun _ => ?_
  refine .ite (fun _ => .pure _) fun _ => .ite (fun _ => .pure _) fun _ => ?_
  refine .ite (fun _ => .bind (Decoder.sound_take 16) (array_agrees 1 16)
    fun stored given => ?array) fun _ => ?_
  case array =>
    -- an array that was read has the length of an identifier
    obtain ⟨_, _, _, _, _, ran⟩ := given
    have length := Decoder.length_of_take ran
    rw [Uuid.ofBytes?, dif_pos length]
    exact .pure _
  exact .ite (fun _ => decimal_agrees short) fun _ => .fail _

/-- The reader in machine words reads an element as the plain reader does. -/
theorem element_ends
    {position : Nat}
    (short : bytes.length < uncountedBytes)
    (inside : position ≤ bytes.length) :
    element bytes position = ended (Decoder.element ⟨position, bytes.drop position⟩) := by
  simp only [element, bind_eq, get_eq, byte_ends inside]
  rcases inside.lt_or_eq with before | atEnd
  · rw [List.drop_eq_getElem_cons before]
    exact value_agrees short _ position (position + 1) (Nat.le_add_left 1 position) before
  · rw [atEnd, List.drop_length]
    rfl

/-! ## Whole tuples -/

theorem elementsOnto_succ
    (done : List Element)
    (steps position : Nat) :
    elementsOnto done (steps + 1) bytes position =
      if bytes.length ≤ position then .ok done.reverse position
      else (element >>= fun next => elementsOnto (next :: done) steps) bytes position := by
  rw [elementsOnto, bind_eq, read_eq]
  dsimp only
  rw [bind_eq, get_eq]
  dsimp only
  split <;> rfl

/-- As many rounds as there are bytes are enough, since each element takes one. -/
theorem elementsOnto_ends
    {position steps : Nat}
    (short : bytes.length < uncountedBytes)
    (inside : position ≤ bytes.length)
    (enough : bytes.length ≤ position + steps)
    (done : List Element) :
    elementsOnto done (steps + 1) bytes position =
      ended (Decoder.elementsOnto done steps ⟨position, bytes.drop position⟩) := by
  induction steps generalizing done position with
  | zero =>
      rw [elementsOnto_succ, if_pos (by omega)]
      rfl
  | succ steps inductionHypothesis =>
      rw [elementsOnto_succ]
      rcases inside.lt_or_eq with before | atEnd
      · rw [if_neg (Nat.not_le_of_lt before), Decoder.elementsOnto_succ (by simpa using before),
          bind_eq, element_ends short inside]
        cases ran : Decoder.element ⟨position, bytes.drop position⟩ with
        | ok next behind =>
            obtain ⟨_, _, consumed, reads⟩ := Decoder.reads_element ran
            obtain ⟨stillInside, rest⟩ := reads.behind_eq inside
            have moved : behind.position = position + (consumed.length + 1) := reads.moved
            rw [Decoder.bind_of_ok ran,
              show behind = ⟨behind.position, bytes.drop behind.position⟩ by rw [← rest]]
            exact inductionHypothesis stillInside (by omega) _
        | error error behind =>
            rw [Decoder.bind_eq_error.mpr (.inl ran)]
            rfl
      · rw [if_pos (Nat.le_of_eq atEnd.symm), List.drop_of_length_le (Nat.le_of_eq atEnd.symm),
          Decoder.elementsOnto_nil]
        rfl

/-- The reader in machine words gives what the plain reader gives. -/
theorem unpack_ends
    (short : bytes.length < uncountedBytes) :
    unpack bytes = (Tuple.unpack bytes).mapError Stop.error := by
  unfold unpack
  rw [elementsOnto_ends short (Nat.zero_le bytes.length) (Nat.le_add_left _ _) [],
    Tuple.unpack, Reader.start, List.drop_zero]
  cases Decoder.elementsOnto [] bytes.length ⟨0, bytes⟩ <;> rfl

/-! ## Digits that are not counted -/

/-- A decimal with the least exponent, of leading zeros and no other digit. -/
def zeros (digits : Nat) : Bytes :=
  TypeCode.decimal :: TypeCode.decimalPositive :: 0 :: (List.replicate digits 1 ++ [0])

theorem length_zeros
    (digits : Nat) :
    (zeros digits).length = digits + 4 := by
  simp [zeros]

theorem byte_of_drop
    {rest : Bytes}
    {position : Nat}
    {found : UInt8}
    (here : bytes.drop position = found :: rest) :
    byte bytes position = .ok found (position + 1) ∧ bytes.drop (position + 1) = rest := by
  have stands : bytes[position]? = some found := by
    rw [← Nat.add_zero position, ← List.getElem?_drop, here, List.getElem?_cons_zero]
  refine ⟨by rw [byte_eq, stands], ?_⟩
  rw [← List.drop_drop, here, List.drop_one, List.tail_cons]

/-- Zeros in front of all other digits are counted and leave the mantissa as it is. -/
theorem digitsOnto_zeros
    {digits steps position counted : Nat}
    (start : Nat)
    (here : bytes.drop position = List.replicate digits 1 ++ [0])
    (enough : digits < steps)
    (few : counted + digits < 0x80000000) :
    digitsOnto start false 0 counted steps bytes position =
      .ok (0, counted + digits) (position + digits + 1) := by
  induction steps generalizing digits position counted with
  | zero => omega
  | succ steps inductionHypothesis =>
      cases digits with
      | zero =>
          rw [digitsOnto, bind_eq, (byte_of_drop here).1]
          rfl
      | succ digits =>
          rw [List.replicate_succ, List.cons_append] at here
          obtain ⟨read, rest⟩ := byte_of_drop here
          have digit : difference (1 : UInt8).toNat 1 bytes (position + 1) = .ok 0 (position + 1) :=
            rfl
          have least : -0x80000000 ≤ (counted : Int) + 1 := by omega
          have greatest : (counted : Int) + 1 < 0x80000000 := by omega
          rw [digitsOnto, bind_eq, read]
          dsimp only
          rw [if_neg Bool.false_ne_true, if_neg (by decide), if_neg (by decide), bind_eq, digit]
          dsimp only
          rw [sum?_product?, if_neg (by decide)]
          dsimp only
          rw [count_bind least greatest, inductionHypothesis rest (by omega) (by omega),
            Nat.add_right_comm counted, Nat.add_right_comm position]
          rfl

/-- The digits are counted, but their number and the least exponent are too far apart. -/
theorem decimal_zeros
    {digits : Nat}
    (few : digits < 0x80000000)
    (many : 0x80000000 ≤ digits + 0x80) :
    decimal 0 (zeros digits) 1 = .error (.fault .count) (3 + digits + 1) := by
  have sign : byte (zeros digits) 1 = .ok TypeCode.decimalPositive 2 := rfl
  have exponent : byte (zeros digits) 2 = .ok 0 3 := rfl
  have found : Guarded.digits 0 false (zeros digits) 3 = .ok (0, digits) (3 + digits + 1) := by
    rw [Guarded.digits, bind_eq, read_eq]
    dsimp only
    rw [digitsOnto_zeros 0 rfl (by rw [length_zeros]; omega) (by omega), Nat.zero_add]
  have places : (0x80000000 : Int) ≤ digits - ((0 : UInt8).toNat - TypeCode.decimalBias) := by
    rw [UInt8.toNat_zero, TypeCode.decimalBias]
    omega
  rw [decimal, bind_eq, sign]
  dsimp only
  rw [if_neg (by decide), if_pos (by decide), bind_eq, exponent]
  dsimp only
  rw [decide_eq_false (by decide), if_neg Bool.false_ne_true,
    count_bind (by decide) (by decide), bind_eq, found]
  dsimp only
  rw [assemble, if_neg (by omega), count_bind_of_le places]

/-- So many zeros that they are counted, but not the places that they make with the least
exponent, put the reader at fault. -/
theorem unpack_zeros
    {digits : Nat}
    (few : digits < 0x80000000)
    (many : 0x80000000 ≤ digits + 0x80) :
    unpack (zeros digits) = .error (.fault .count) := by
  have code : byte (zeros digits) 0 = .ok TypeCode.decimal 1 := rfl
  have faulty : element (zeros digits) 0 = .error (.fault .count) (3 + digits + 1) := by
    rw [element, bind_eq, get_eq]
    dsimp only
    rw [bind_eq, code]
    exact decimal_zeros few many
  rw [unpack, length_zeros, elementsOnto_succ, length_zeros, if_neg (by omega), bind_eq, faulty]

end Guarded

/-! ## Reading whatever bytes -/

/-- What it means that an element is read off the bytes from a position and leaves
the reader behind it. -/
structure Decoder.TakesOff
    (bytes : Bytes)
    (position : Nat)
    (element : Element)
    (behind : Reader) : Prop where
  /-- At least one byte is read. -/
  advances : position < behind.position
  /-- No byte behind the end is read. -/
  inside : behind.position ≤ bytes.length
  /-- The reader is left in front of the bytes that are not read. -/
  rest : behind.rest = bytes.drop behind.position
  /-- The element is settled by the bytes that are read and the one behind them:
  where others hold the same, the same element is read off them. -/
  settled : ∀ (others : Bytes) (offset : Nat),
    (others.drop offset).take (behind.position - position + 1) =
        (bytes.drop position).take (behind.position - position + 1) ->
      Decoder.element ⟨offset, others.drop offset⟩ =
        .ok element ⟨offset + (behind.position - position),
          others.drop (offset + (behind.position - position))⟩

theorem Decoder.takesOff_of_element
    {bytes : Bytes}
    {position : Nat}
    {result : Element}
    {behind : Reader}
    (inside : position ≤ bytes.length)
    (ran : element ⟨position, bytes.drop position⟩ = .ok result behind) :
    TakesOff bytes position result behind := by
  obtain ⟨_, code, consumed, reads⟩ := reads_element ran
  obtain ⟨stillInside, rest⟩ := reads.behind_eq inside
  have moved : behind.position = position + (consumed.length + 1) := reads.moved
  refine ⟨by omega, stillInside, rest, fun others offset same => ?_⟩
  have taken : behind.position - position = (code :: consumed).length := by
    rw [moved, Nat.add_sub_cancel_left, List.length_cons]
  rw [taken] at same ⊢
  rw [reads.again 0 offset (others.drop offset) same, List.drop_drop]

namespace Tuple

/-- Whatever the bytes are, they are a tuple or name a fault at an offset inside them, and
what is read as an element from any position is read off the bytes there.  In bytes that
are too few for more digits than can be counted the reader in machine words does the same,
so it takes no slice, difference, power, product or negative out of range and never runs
out of rounds. -/
theorem unpack_safe
    (bytes : Bytes) :
    ((∃ tuple, unpack bytes = .ok tuple) ∨
        ∃ position message, unpack bytes = .error (.tupleDecode position message) ∧
          position ≤ bytes.length) ∧
      (∀ position, position ≤ bytes.length -> ∀ element behind,
        Decoder.element ⟨position, bytes.drop position⟩ = .ok element behind ->
          Decoder.TakesOff bytes position element behind) ∧
      (bytes.length < Guarded.uncountedBytes ->
        Guarded.unpack bytes = (unpack bytes).mapError Stop.error ∧
          ∀ position, position ≤ bytes.length ->
            Guarded.element bytes position =
              Guarded.ended (Decoder.element ⟨position, bytes.drop position⟩)) :=
  ⟨(unpack_ok_or_error bytes).imp_left fun ⟨tuple, unpacked, _⟩ => ⟨tuple, unpacked⟩,
    fun _ inside _ _ ran => Decoder.takesOff_of_element inside ran,
    fun short => ⟨Guarded.unpack_ends short, fun _ inside => Guarded.element_ends short inside⟩⟩

/-- Ten and a half, and a null behind it. -/
theorem unpack_safe_decimal :
    ([0x40, 3, 0x82, 2, 1, 6, 0, 0] : Bytes).length < Guarded.uncountedBytes ∧
      Guarded.unpack [0x40, 3, 0x82, 2, 1, 6, 0, 0] =
        .ok [.decimal ⟨105, 1, by decide, by decide⟩, .null] := by
  have short : ([0x40, 3, 0x82, 2, 1, 6, 0, 0] : Bytes).length < Guarded.uncountedBytes := by
    decide
  refine ⟨short, ?_⟩
  rw [((unpack_safe _).2.2 short).1]
  decide +kernel

/-- The shortest bytes that are not too few put the reader in machine words at fault. -/
theorem unpack_uncounted :
    (Guarded.zeros 0x7FFFFF80).length = Guarded.uncountedBytes ∧
      Guarded.unpack (Guarded.zeros 0x7FFFFF80) = .error (.fault .count) :=
  ⟨Guarded.length_zeros _, Guarded.unpack_zeros (by decide) (by decide)⟩

end Tuple
end Keyspace
