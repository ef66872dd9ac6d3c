import Receipts.Proofs.Extract.Guesses

/-!
# The catalog with values left out

The check on the outlines of partly filled receipts succeeds for each template of the catalog. For
Stan Store and Fanbasis all rules are faithful, and for Beacons all but four.
-/

namespace Receipts

set_option maxRecDepth 100000 in
theorem exists_isPartlyRecoverable_beacons :
    ∃ chunks rules,
      IsPartlyRecoverable Catalog.beacons (ValueShape.ofKey "beacons") chunks rules guessedKeys ∧
      IsGuessing (ValueShape.ofKey "beacons") chunks rules := by
  apply Exists.intro
  apply Exists.intro
  apply And.intro
  · apply IsPartlyRecoverable.mk
    case written =>
      change _ = Dialect.beacons.rules
      dsimp only [Dialect.beacons, Dialect.mailAddress]
      repeat (first | apply WrittenRule.map_rule_nil | apply WrittenRule.map_rule_cons)
    · apply IsLaidOut.mk
      · dsimp only [Catalog.beacons, Catalog.beaconsSegments]
        repeat (first | apply Spelled.nil | apply Spelled.text | apply Spelled.slot)
      all_goals decide +kernel
    all_goals decide +kernel
  · apply IsGuessing.mk
    all_goals decide +kernel

set_option maxRecDepth 100000 in
theorem exists_isPartlyRecoverable_stanStore :
    ∃ chunks rules,
      IsPartlyRecoverable Catalog.stanStore (ValueShape.ofKey "stanstore") chunks rules [] := by
  apply Exists.intro
  apply Exists.intro
  apply IsPartlyRecoverable.mk
  case written =>
    change _ = Dialect.stanStore.rules
    dsimp only [Dialect.stanStore, Dialect.mailAddress]
    repeat (first | apply WrittenRule.map_rule_nil | apply WrittenRule.map_rule_cons)
  · apply IsLaidOut.mk
    · dsimp only [Catalog.stanStore, Catalog.stanStoreSegments]
      repeat (first | apply Spelled.nil | apply Spelled.text | apply Spelled.slot)
    all_goals decide +kernel
  all_goals decide +kernel

set_option maxRecDepth 100000 in
theorem exists_isPartlyRecoverable_fanbasis :
    ∃ chunks rules,
      IsPartlyRecoverable Catalog.fanbasis (ValueShape.ofKey "fanbasis") chunks rules [] := by
  apply Exists.intro
  apply Exists.intro
  apply IsPartlyRecoverable.mk
  case written =>
    change _ = Dialect.fanbasis.rules
    dsimp only [Dialect.fanbasis, Dialect.mailAddress]
    repeat (first | apply WrittenRule.map_rule_nil | apply WrittenRule.map_rule_cons)
  · apply IsLaidOut.mk
    · dsimp only [Catalog.fanbasis, Catalog.fanbasisSegments]
      repeat (first | apply Spelled.nil | apply Spelled.text | apply Spelled.slot)
    all_goals decide +kernel
  all_goals decide +kernel

end Receipts
