/-
Repetition refuses just what is too large (`replicate_eq_ok`): the bytes of the result are
the bytes of the value times the count, as a product of whole numbers. In 64-bit words the
product can be beyond a word, and is then refused as well, so sizes held in words make no
difference (`replicateInWords_eq`). Lengths add up and multiply, and so counts do
(`replicate_add`, `replicate_mul`). A lenient engine goes on with the value that was refused
(`run_runStage_of_refused`).
-/
import Placeholders.Proofs.OutputLimit
import Mathlib.Algebra.Ring.Int.Defs

namespace Placeholders

/-- What a function refuses leaves the running value of a lenient engine, and is noted. -/
theorem Engine.run_runStage_of_refused {provider : Provider} {key value : Text} {call : Pattern.Call} {s : Signature}
    {f : PipeFunction} {args : List Argument} {e : FunctionError}
    (hcall : Invokes ⟨provider, .lenient⟩ (some call) s f args) (hrefuse : f value args = refuse e) :
    (runStage ⟨provider, .lenient⟩ key value (some call)).run =
      .ok (value, argumentIssues call.args ++ [⟨.error, .invocationFailed call.function provider.name e⟩]) := by
  cases hcall with
  | intro htypes hargs hresolve =>
    cases types_of_run htypes
    have hinvoke : invoke provider value call call.types = refuse (.invocationFailed call.function provider.name e) := by
      rw [invoke, hargs]
      dsimp only
      rw [hresolve]
      dsimp only
      rw [hrefuse]
      rfl
    rw [run_runStage_lenient, hinvoke]
    rfl

namespace Builtin

/-! ## Sizes -/

theorem replicate_of_neg {n : ℤ} (h : n < 0) (value : Text) :
    replicate value [.integer n] = refuse (.invalidArgument 0 .integer) := by
  rw [replicate, fetchCount_of_neg h]
  rfl

theorem replicate_of_nonneg {n : ℤ} (h : 0 ≤ n) (value : Text) :
    replicate value [.integer n] =
      if value.byteLength * n ≤ (outputLimit : ℤ) then .ok (List.replicate n.toNat value).flatten
      else failTooLarge "repeat".toList n.toNat := by
  obtain ⟨k, rfl⟩ := Int.eq_ofNat_of_zero_le h
  have hsize : (value.byteLength : ℤ) * k ≤ outputLimit ↔ ¬ outputLimit < value.byteLength * k := by
    rw [not_lt]
    exact_mod_cast Iff.rfl
  have hcopies : (if value.isEmpty then [] else (List.replicate k value).flatten) = (List.replicate k value).flatten := by
    cases value with
    | nil => exact List.flatten_replicate_nil.symm
    | cons c r => rfl
  rw [replicate_eq (n := k) rfl, hcopies, Int.toNat_natCast]
  simp only [hsize, ite_not]

theorem replicate_eq_ok {n : ℤ} {value t : Text} :
    replicate value [.integer n] = .ok t ↔
      0 ≤ n ∧ value.byteLength * n ≤ (outputLimit : ℤ) ∧ t = (List.replicate n.toNat value).flatten := by
  rcases Int.lt_or_le n 0 with hneg | hnonneg
  · rw [replicate_of_neg hneg]
    exact ⟨fun h => (nomatch h), fun h => absurd h.1 (Int.not_le.mpr hneg)⟩
  · rw [replicate_of_nonneg hnonneg]
    split
    · next hle => exact ⟨fun h => ⟨hnonneg, hle, (Except.ok.inj h).symm⟩, fun h => h.2.2 ▸ rfl⟩
    · next hlarge => exact ⟨fun h => (nomatch h), fun h => absurd h.2.1 hlarge⟩

/-! ## Sizes in words -/

/-- The product of two words, when it is not beyond a word. -/
def checkedProduct? (a b : UInt64) : Option UInt64 :=
  if a.toNat * b.toNat < UInt64.size then some (a * b) else none

/-- Repetition with its sizes in words. -/
def replicateInWords : PipeFunction := fun value args => do
  let count ← fetchCount args 0
  match (checkedProduct? (.ofNat value.byteLength) (.ofNat count)).filter (· ≤ .ofNat outputLimit) with
  | none => failTooLarge "repeat".toList count
  | some _ => return (List.replicate count value).flatten

/-- A product that is within the limit is within a word, so it is not lost when it is checked first. -/
theorem filter_checkedProduct? {a b limit : ℕ} (ha : a < UInt64.size) (hb : b < UInt64.size)
    (hlimit : limit < UInt64.size) :
    (checkedProduct? (.ofNat a) (.ofNat b)).filter (· ≤ .ofNat limit) =
      if a * b ≤ limit then some (.ofNat (a * b)) else none := by
  unfold checkedProduct?
  rw [UInt64.toNat_ofNat_of_lt' ha, UInt64.toNat_ofNat_of_lt' hb]
  by_cases hword : a * b < UInt64.size
  · have hle : (UInt64.ofNat (a * b) ≤ .ofNat limit) ↔ a * b ≤ limit := by
      rw [UInt64.le_iff_toNat_le, UInt64.toNat_ofNat_of_lt' hword, UInt64.toNat_ofNat_of_lt' hlimit]
    rw [if_pos hword, ← UInt64.ofNat_mul, Option.filter_some]
    simp only [decide_eq_true_eq, hle]
  · rw [if_neg hword, if_neg (by omega)]
    rfl

theorem replicateInWords_eq {n : ℤ} {value : Text} (hn : n ≤ Number.maxInt64) (hvalue : value.byteLength < UInt64.size) :
    replicateInWords value [.integer n] = replicate value [.integer n] := by
  rcases Int.lt_or_le n 0 with hneg | hnonneg
  · rw [replicate_of_neg hneg, replicateInWords, fetchCount_of_neg hneg]
    rfl
  · obtain ⟨k, rfl⟩ := Int.eq_ofNat_of_zero_le hnonneg
    have hk : k < UInt64.size := by
      unfold Number.maxInt64 at hn
      unfold UInt64.size
      omega
    have hsize : (value.byteLength : ℤ) * (k : ℤ) ≤ outputLimit ↔ value.byteLength * k ≤ outputLimit := by
      exact_mod_cast Iff.rfl
    rw [replicate_of_nonneg hnonneg, replicateInWords, fetchCount_of_nonneg hnonneg, Int.toNat_natCast]
    change (match (checkedProduct? (.ofNat value.byteLength) (.ofNat k)).filter (· ≤ .ofNat outputLimit) with
      | none => failTooLarge "repeat".toList k
      | some _ => .ok (List.replicate k value).flatten) = _
    rw [filter_checkedProduct? hvalue hk (by decide)]
    simp only [hsize]
    split
    · next h =>
      split at h
      · cases h
      · next hlarge => exact (if_neg hlarge).symm
    · next h =>
      split at h
      · next hle => exact (if_pos hle).symm
      · cases h

/-! ## Counts -/

theorem byteLength_of_replicate {n : ℤ} {value t : Text} (h : replicate value [.integer n] = .ok t) :
    (t.byteLength : ℤ) = value.byteLength * n := by
  obtain ⟨hn, -, rfl⟩ := replicate_eq_ok.mp h
  rw [Text.byteLength_flatten_replicate, Nat.cast_mul, Int.toNat_of_nonneg hn]

/-- Counts add up: one text after the other is the repetition for both, if that is not too large. -/
theorem replicate_add {a b : ℤ} {value s t u : Text} (ha : replicate value [.integer a] = .ok s)
    (hb : replicate value [.integer b] = .ok t) :
    replicate value [.integer (a + b)] = .ok u ↔ u = s ++ t ∧ u.byteLength ≤ outputLimit := by
  obtain ⟨hna, -, rfl⟩ := replicate_eq_ok.mp ha
  obtain ⟨hnb, -, rfl⟩ := replicate_eq_ok.mp hb
  have htext : (List.replicate (a + b).toNat value).flatten =
      (List.replicate a.toNat value).flatten ++ (List.replicate b.toNat value).flatten := by
    rw [Int.toNat_add hna hnb, List.replicate_add, List.flatten_append]
  have hbytes : (Text.byteLength (List.replicate (a + b).toNat value).flatten : ℤ) = value.byteLength * (a + b) := by
    rw [Text.byteLength_flatten_replicate, Nat.cast_mul, Int.toNat_of_nonneg (by omega)]
  rw [replicate_eq_ok, ← hbytes, ← htext]
  constructor
  · rintro ⟨-, hle, rfl⟩
    exact ⟨rfl, by exact_mod_cast hle⟩
  · rintro ⟨rfl, hle⟩
    exact ⟨by omega, by exact_mod_cast hle, rfl⟩

theorem flatten_replicate_flatten (m n : ℕ) (t : Text) :
    (List.replicate n (List.replicate m t).flatten).flatten = (List.replicate (m * n) t).flatten := by
  induction n with
  | zero => rfl
  | succ n ih =>
    rw [List.replicate_succ, List.flatten_cons, ih, Nat.mul_succ, Nat.add_comm, List.replicate_add, List.flatten_append]

/-- Counts multiply: a repetition is repeated, or refused, as the value is for both counts. -/
theorem replicate_mul {a b : ℤ} {value s t : Text} (ha : replicate value [.integer a] = .ok s) (hb : 0 ≤ b) :
    replicate s [.integer b] = .ok t ↔ replicate value [.integer (a * b)] = .ok t := by
  have hbytes := byteLength_of_replicate ha
  obtain ⟨hna, -, rfl⟩ := replicate_eq_ok.mp ha
  rw [replicate_eq_ok, replicate_eq_ok, hbytes, flatten_replicate_flatten, ← Int.toNat_mul hna hb, mul_assoc]
  simp only [hb, Int.mul_nonneg hna hb]

theorem resolve_replicate : standard.resolve ⟨"repeat".toList, [.integer]⟩ = some replicate := rfl

/-- **Repetition refuses just what is too large.** A count that is not negative gives so many
copies of the value when their bytes are within the output limit, and else an error; also when
the bytes are counted in 64-bit words, which the product can be beyond. Of counts that are
accepted, the sum gives one text after the other and the product the one text repeated.
After a refusal a lenient engine goes on with the value that it had, and notes the error. -/
theorem replicate_refuses_tooLarge (value : Text) :
    (∀ n : ℤ, n < 0 → replicate value [.integer n] = refuse (.invalidArgument 0 .integer)) ∧
      (∀ n : ℤ, 0 ≤ n →
        replicate value [.integer n] =
          if value.byteLength * n ≤ (outputLimit : ℤ) then .ok (List.replicate n.toNat value).flatten
          else failTooLarge "repeat".toList n.toNat) ∧
      (∀ n : ℤ, n ≤ Number.maxInt64 → value.byteLength < UInt64.size →
        replicateInWords value [.integer n] = replicate value [.integer n]) ∧
      (∀ (a b : ℤ) (s t u : Text),
        replicate value [.integer a] = .ok s → replicate value [.integer b] = .ok t →
          (replicate value [.integer (a + b)] = .ok u ↔ u = s ++ t ∧ u.byteLength ≤ outputLimit)) ∧
      (∀ (a b : ℤ) (s t : Text), replicate value [.integer a] = .ok s → 0 ≤ b →
        (replicate s [.integer b] = .ok t ↔ replicate value [.integer (a * b)] = .ok t)) ∧
      (∀ (provider : Provider) (key : Text) (call : Pattern.Call) (s : Signature) (args : List Argument)
        (e : FunctionError),
        Engine.Invokes ⟨provider, .lenient⟩ (some call) s replicate args → replicate value args = refuse e →
          (Engine.runStage ⟨provider, .lenient⟩ key value (some call)).run =
            .ok (value,
              Engine.argumentIssues call.args ++
                [⟨.error, .invocationFailed call.function provider.name e⟩])) ∧
      standard.resolve ⟨"repeat".toList, [.integer]⟩ = some replicate :=
  ⟨fun _ hn => replicate_of_neg hn value, fun _ hn => replicate_of_nonneg hn value,
    fun _ hn hvalue => replicateInWords_eq hn hvalue, fun _ _ _ _ _ ha hb => replicate_add ha hb,
    fun _ _ _ _ ha hb => replicate_mul ha hb, fun _ _ _ _ _ _ => Engine.run_runStage_of_refused,
    resolve_replicate⟩

/-- Four bytes so many times are two to the power 64, which is zero in a word. -/
def wrappingCount : ℤ := 4611686018427387904

/-- The stage that asks for them. -/
def wrappingCall : Pattern.Call := ⟨"repeat".toList, ["4611686018427387904".toList]⟩

theorem replicate_refuses_tooLarge_wrapping :
    0 ≤ wrappingCount ∧ wrappingCount ≤ Number.maxInt64 ∧ Text.byteLength "abcd".toList < UInt64.size ∧
      UInt64.ofNat (Text.byteLength "abcd".toList * wrappingCount.toNat) = 0 ∧
      replicateInWords "abcd".toList [.integer wrappingCount] = failTooLarge "repeat".toList wrappingCount.toNat ∧
      ∃ issue,
        (Engine.runStage ⟨standard.toProvider, .lenient⟩ ['k'] "abcd".toList (some wrappingCall)).run =
          .ok ("abcd".toList, [issue]) := by
  obtain ⟨-, hreplicate, hwords, -, -, hrefused, hresolve⟩ := replicate_refuses_tooLarge "abcd".toList
  have hnonneg : 0 ≤ wrappingCount := by decide
  have hfits : wrappingCount ≤ Number.maxInt64 := by decide
  have hvalue : Text.byteLength "abcd".toList < UInt64.size := by decide
  have hlarge := hreplicate wrappingCount hnonneg
  rw [if_neg (by decide)] at hlarge
  have htypes : (wrappingCall.args.mapM (Engine.typeOf .lenient)).run = .ok ([.integer], []) := rfl
  have hargs : Argument.ofTokens "repeat".toList wrappingCall.args [.integer] = .ok [.integer wrappingCount] := rfl
  exact ⟨hnonneg, hfits, hvalue, by decide, (hwords wrappingCount hfits hvalue).trans hlarge, _,
    hrefused _ _ _ _ _ _ (.intro htypes hargs hresolve) hlarge⟩

end Builtin
end Placeholders
