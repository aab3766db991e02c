/-
  TunnelControl.Proofs.Duration.EngineText
  ────────────────────────────────────────
  **THE ENGINE READS THE SPAN THAT WAS MEANT.**

  In the notation of the engine a span is a whole number and a unit.  The
  reader of this module is what the notation means; the text of a span, in
  whatever unit it is written, denotes that span.

    • `unitOf?`, `ofEngineText?`  — the meaning of the notation,
    • `engineUnits`, `Writes`    — the notation itself, a number and a unit,
    • `writes_engineText`        — the text of a span is in the notation,
    • `ofEngineText?_engineText`, `engineText_injective` — it denotes that span alone.
-/
import TunnelControl.Duration.Basic
import TunnelControl.Proofs.Text.Decimal

namespace TunnelControl.Duration

/-- The length of a unit of the notation in nanoseconds. -/
def unitOf? (unit : List Char) : Option Nat :=
  if unit = ['s'] then some perSecond
  else if unit = ['m', 's'] then some 1000000
  else if unit = ['u', 's'] then some 1000
  else if unit = ['n', 's'] then some 1
  else none

/-- The span that a text denotes: a whole number of units. -/
def ofEngineText? (text : String) : Option Duration := do
  let n ← Text.digits? (text.toList.takeWhile Text.isDigit)
  let unit ← unitOf? (text.toList.dropWhile Text.isDigit)
  return ⟨n * unit⟩

/-- A number and a unit denote so many units. -/
theorem ofEngineText?_append (n length : Nat) {unit : String}
    (letters : unit.toList.takeWhile Text.isDigit = [])
    (known : unitOf? unit.toList = some length) :
    ofEngineText? (Text.ofNat n ++ unit) = some ⟨n * length⟩ := by
  have digits : ∀ d ∈ Text.decimal n, Text.isDigit d = true :=
    fun d hd => Text.isDigit_of_mem_decimal hd
  have hunit : unit.toList.dropWhile Text.isDigit = unit.toList := by
    have happend := List.takeWhile_append_dropWhile (p := Text.isDigit) (l := unit.toList)
    rwa [letters, List.nil_append] at happend
  unfold ofEngineText?
  rw [String.toList_append, Text.ofNat, String.toList_ofList,
    List.takeWhile_append_of_pos digits, List.dropWhile_append_of_pos digits, letters, hunit,
    List.append_nil, Text.digits?_decimal, known]
  rfl

/-- The units of the notation, with their lengths in nanoseconds. -/
def engineUnits : List (String × Nat) :=
  [("s", 1000000000), ("ms", 1000000), ("us", 1000), ("ns", 1)]

/-- A text is a whole number of units that make up a span. -/
def Writes (text : String) (d : Duration) : Prop :=
  ∃ n, ∃ unit ∈ engineUnits, text = Text.ofNat n ++ unit.1 ∧ n * unit.2 = d.nanoseconds

/-- **The text of a span is a whole number of units that make it up.** -/
theorem writes_engineText (d : Duration) : Writes d.engineText d := by
  -- the first unit that loses nothing is taken, and the last one never does
  have whole : ∀ {length : Nat}, d.nanoseconds % length = 0 →
      d.nanoseconds / length * length = d.nanoseconds :=
    fun h => Nat.div_mul_cancel (Nat.dvd_of_mod_eq_zero h)
  unfold engineText
  dsimp only
  split
  next h => exact ⟨_, ("s", 1000000000), by decide, rfl, whole h⟩
  next =>
  split
  next h => exact ⟨_, ("ms", 1000000), by decide, rfl, whole h⟩
  next =>
  split
  next h => exact ⟨_, ("us", 1000), by decide, rfl, whole h⟩
  next => exact ⟨_, ("ns", 1), by decide, rfl, Nat.mul_one _⟩

/-- A text denotes the span that it writes. -/
theorem Writes.ofEngineText? {text : String} {d : Duration} (h : Writes text d) :
    Duration.ofEngineText? text = some d := by
  obtain ⟨n, unit, listed, rfl, total⟩ := h
  have known : ∀ unit ∈ engineUnits,
      unit.1.toList.takeWhile Text.isDigit = [] ∧ unitOf? unit.1.toList = some unit.2 := by
    decide
  obtain ⟨letters, length⟩ := known unit listed
  rw [ofEngineText?_append n unit.2 letters length, total]

/-- **The text of a span denotes that span.** -/
theorem ofEngineText?_engineText (d : Duration) : ofEngineText? d.engineText = some d :=
  (writes_engineText d).ofEngineText?

/-- **Spans of different lengths have different texts.** -/
theorem engineText_injective {d e : Duration} (same : d.engineText = e.engineText) : d = e := by
  have read := ofEngineText?_engineText d
  rw [same, ofEngineText?_engineText] at read
  exact (Option.some.inj read).symm

end TunnelControl.Duration
