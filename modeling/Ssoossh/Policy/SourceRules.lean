import Mathlib.Data.List.MinMax
import Mathlib.Data.Prod.Lex
import Ssoossh.Policy.Lifetime

/-!
# Which source rule applies

Several rules of a policy may match one address.  `matchSourceRule` takes the longest
prefix and, among equally long ones, the smallest `max_duration`, so which rule it
takes does not depend on their order as far as the duration goes.

The smallest `max_duration` is the strictest one only among rules that have one: a
rule without a cap has a `max_duration` of zero and wins the tie against every rule
that has one (`uncapped_rule_wins_tie`).  `strictest_rule_iff` says exactly when the
rule taken is the strictest of its length.
-/

namespace Ssoossh

open GoTime List

/-! ## The rules that match -/

/-- The rules whose network holds the address. -/
def matchingRules (rules : List ParsedSourceRule) (sourceIP : String) : List ParsedSourceRule :=
  match NetIP.parseAddr sourceIP with
  | none => []
  | some addr => rules.filter fun rule => rule.network.contains addr.unmap

/-- A matching rule, and none that matches has a longer prefix. -/
structure LongestMatch (rules : List ParsedSourceRule) (sourceIP : String)
    (rule : ParsedSourceRule) : Prop where
  matching : rule ∈ matchingRules rules sourceIP
  longest : ∀ other ∈ matchingRules rules sourceIP, other.network.bits ≤ rule.network.bits

theorem matchSourceRule_eq (rules : List ParsedSourceRule) (sourceIP : String) :
    matchSourceRule rules sourceIP = (matchingRules rules sourceIP).foldl betterRule none := by
  unfold matchSourceRule matchingRules
  cases NetIP.parseAddr sourceIP <;> rfl

variable {rules : List ParsedSourceRule} {sourceIP : String} {rule : ParsedSourceRule}

theorem LongestMatch.of_perm {rules' : List ParsedSourceRule} (perm : rules.Perm rules')
    (longest : LongestMatch rules sourceIP rule) : LongestMatch rules' sourceIP rule := by
  have same : (matchingRules rules sourceIP).Perm (matchingRules rules' sourceIP) := by
    unfold matchingRules
    cases NetIP.parseAddr sourceIP with
    | none => exact .refl _
    | some => exact perm.filter _
  exact ⟨same.subset longest.matching, fun other member =>
    longest.longest other (same.symm.subset member)⟩

/-- What is kept after some of the matching rules: one of them, that no other beats. -/
structure Best (seen : List ParsedSourceRule) (best : ParsedSourceRule) : Prop where
  member : best ∈ seen
  longest : ∀ other ∈ seen, other.network.bits ≤ best.network.bits
  smallest : ∀ other ∈ seen, other.network.bits = best.network.bits →
    best.maxDuration ≤ other.maxDuration

/-- What `betterRule` keeps the largest of. -/
def ParsedSourceRule.rank (rule : ParsedSourceRule) : ℕ ×ₗ ℤᵒᵈ :=
  toLex (rule.network.bits, OrderDual.toDual rule.maxDuration)

theorem betterRule_eq : betterRule = argAux fun rule old => old.rank < rule.rank := by
  funext best rule
  cases best with
  | none => rfl
  | some old =>
    by_cases longer : rule.network.bits > old.network.bits
    · simp [betterRule, argAux, ParsedSourceRule.rank, Prod.Lex.toLex_lt_toLex, longer]
    · simp [betterRule, argAux, ParsedSourceRule.rank, Prod.Lex.toLex_lt_toLex, longer, eq_comm]

/-- `matchSourceRule` finds nothing only where nothing matches. -/
theorem matchSourceRule_cases (rules : List ParsedSourceRule) (sourceIP : String) :
    (matchingRules rules sourceIP = [] ∧ matchSourceRule rules sourceIP = none) ∨
      ∃ rule, matchSourceRule rules sourceIP = some rule ∧
        Best (matchingRules rules sourceIP) rule := by
  rw [matchSourceRule_eq, betterRule_eq]
  cases found : (matchingRules rules sourceIP).argmax ParsedSourceRule.rank with
  | none => exact .inl ⟨argmax_eq_none.mp found, found⟩
  | some rule =>
    have beaten {other : ParsedSourceRule} (member : other ∈ matchingRules rules sourceIP) :=
      Prod.Lex.toLex_le_toLex.mp (le_of_mem_argmax member found)
    refine .inr ⟨rule, found, argmax_mem found, fun other member => ?_, fun other member same => ?_⟩
    · exact (beaten member).elim le_of_lt fun tie => tie.1.le
    · exact (beaten member).elim (fun shorter => absurd same shorter.ne) And.right

theorem Best.longestMatch (best : Best (matchingRules rules sourceIP) rule) :
    LongestMatch rules sourceIP rule :=
  ⟨best.member, best.longest⟩

/-- The rule taken has the smallest `max_duration` of its length. -/
theorem Best.le_of_longestMatch {other : ParsedSourceRule}
    (best : Best (matchingRules rules sourceIP) rule)
    (longest : LongestMatch rules sourceIP other) : rule.maxDuration ≤ other.maxDuration :=
  best.smallest other longest.matching
    (le_antisymm (best.longest other longest.matching) (longest.longest rule best.member))

/-! ## The duration it leads to -/

/-- What a rule makes of the duration the tiers allow. -/
def ParsedSourceRule.cap (rule : ParsedSourceRule) (tierDuration : Int) : Int :=
  if rule.maxDuration > 0 ∧ rule.maxDuration < tierDuration then rule.maxDuration
  else tierDuration

/-- What an evaluation takes from the source rules. -/
def sourceCap (rules : List ParsedSourceRule) (sourceIP : String) (tierDuration : Int) : Int :=
  match matchSourceRule rules sourceIP with
  | some rule => rule.cap tierDuration
  | none => tierDuration

theorem ParsedSourceRule.cap_of_uncapped (none : rule.maxDuration ≤ 0) (tierDuration : Int) :
    rule.cap tierDuration = tierDuration :=
  if_neg fun capped => absurd capped.1 (not_lt.mpr none)

theorem ParsedSourceRule.cap_of_capped (capped : 0 < rule.maxDuration) (tierDuration : Int) :
    rule.cap tierDuration = min rule.maxDuration tierDuration := by
  unfold ParsedSourceRule.cap
  by_cases shorter : rule.maxDuration < tierDuration
  · rw [if_pos ⟨capped, shorter⟩, min_eq_left shorter.le]
  · rw [if_neg fun both => shorter both.2, min_eq_right (not_lt.mp shorter)]

/-- A smaller cap is a stricter one. -/
theorem ParsedSourceRule.cap_mono {other : ParsedSourceRule} (capped : 0 < rule.maxDuration)
    (le : rule.maxDuration ≤ other.maxDuration) (tierDuration : Int) :
    rule.cap tierDuration ≤ other.cap tierDuration := by
  rw [cap_of_capped capped, cap_of_capped (lt_of_lt_of_le capped le)]
  exact min_le_min_right tierDuration le

/-- The order of the rules does not matter to the duration. -/
theorem sourceCap_of_perm {rules' : List ParsedSourceRule} (perm : rules.Perm rules')
    (sourceIP : String) (tierDuration : Int) :
    sourceCap rules sourceIP tierDuration = sourceCap rules' sourceIP tierDuration := by
  rcases matchSourceRule_cases rules sourceIP with ⟨empty, none⟩ | ⟨rule, taken, best⟩ <;>
    rcases matchSourceRule_cases rules' sourceIP with ⟨empty', none'⟩ | ⟨rule', taken', best'⟩
  · simp [sourceCap, none, none']
  · have moved := (best'.longestMatch.of_perm perm.symm).matching
    simp [empty] at moved
  · have moved := (best.longestMatch.of_perm perm).matching
    simp [empty'] at moved
  · have same : rule.maxDuration = rule'.maxDuration :=
      le_antisymm (best.le_of_longestMatch (best'.longestMatch.of_perm perm.symm))
        (best'.le_of_longestMatch (best.longestMatch.of_perm perm))
    simp [sourceCap, taken, taken', ParsedSourceRule.cap, same]

section Evaluate

open LifetimePolicyEngine

variable (policy : ParsedLifetimePolicy) (certType : CertificateType) (identity : Identity)
variable (sourceIP : String) (ceiling enrollmentCeiling : Int)

theorem duration_evaluatePolicy :
    (evaluatePolicy policy certType identity sourceIP ceiling enrollmentCeiling).duration =
      min (sourceCap policy.sourceRules sourceIP (policy.tierDuration identity)) ceiling := by
  cases taken : matchSourceRule policy.sourceRules sourceIP with
  | none => simp only [evaluatePolicy, policy.getD_matchTier, sourceCap, taken]
  | some =>
    simp only [evaluatePolicy, policy.getD_matchTier, sourceCap, ParsedSourceRule.cap, taken]

/-- The effective duration an evaluation derives from one rule alone. -/
def durationUnder (rule : ParsedSourceRule) : Int :=
  (evaluatePolicy { policy with sourceRules := [rule] } certType identity sourceIP ceiling
    enrollmentCeiling).duration

variable {policy certType identity sourceIP ceiling enrollmentCeiling}

theorem durationUnder_of_matching (matching : rule ∈ matchingRules policy.sourceRules sourceIP) :
    durationUnder policy certType identity sourceIP ceiling enrollmentCeiling rule =
      min (rule.cap (policy.tierDuration identity)) ceiling := by
  have alone : matchSourceRule [rule] sourceIP = some rule := by
    unfold matchingRules at matching
    unfold matchSourceRule
    cases address : NetIP.parseAddr sourceIP with
    | none => simp [address] at matching
    | some =>
      simp only [address, mem_filter] at matching
      simp [matching.2, betterRule]
  rw [durationUnder, duration_evaluatePolicy, sourceCap, alone]
  rfl

end Evaluate

/-- **When the strictest rule wins.**  The rule taken has the longest prefix that
matches, and no other rule of that length leads to a shorter duration, whatever the
order of the rules, exactly if no rule without a cap shares that length with a rule
whose cap is shorter than what the tiers and the type allow anyway. -/
theorem strictest_rule_iff (policy : ParsedLifetimePolicy) (certType : CertificateType)
    (identity : Identity) (sourceIP : String) (ceiling enrollmentCeiling : Int) :
    ((∀ rule, matchSourceRule policy.sourceRules sourceIP = some rule →
        LongestMatch policy.sourceRules sourceIP rule ∧
        ∀ other, LongestMatch policy.sourceRules sourceIP other →
          (LifetimePolicyEngine.evaluatePolicy policy certType identity sourceIP ceiling
            enrollmentCeiling).duration ≤
          durationUnder policy certType identity sourceIP ceiling enrollmentCeiling other) ∧
      ∀ rules, rules.Perm policy.sourceRules →
        (LifetimePolicyEngine.evaluatePolicy { policy with sourceRules := rules } certType
          identity sourceIP ceiling enrollmentCeiling).duration =
        (LifetimePolicyEngine.evaluatePolicy policy certType identity sourceIP ceiling
          enrollmentCeiling).duration) ↔
      ∀ uncapped capped, LongestMatch policy.sourceRules sourceIP uncapped →
        LongestMatch policy.sourceRules sourceIP capped →
        uncapped.maxDuration ≤ 0 → 0 < capped.maxDuration →
        min (policy.tierDuration identity) ceiling ≤ capped.maxDuration := by
  rw [duration_evaluatePolicy]
  generalize allowed : policy.tierDuration identity = tierDuration
  constructor
  · rintro ⟨strictest, -⟩ uncapped capped longUncapped longCapped none some
    rcases matchSourceRule_cases policy.sourceRules sourceIP with ⟨empty, -⟩ | ⟨rule, taken, best⟩
    · have member := longCapped.matching
      simp [empty] at member
    · -- the rule taken has no cap either, so the capped one has to leave as much
      have free : rule.maxDuration ≤ 0 := le_trans (best.le_of_longestMatch longUncapped) none
      have le := (strictest rule taken).2 capped longCapped
      rw [durationUnder_of_matching longCapped.matching, allowed, sourceCap, taken] at le
      simp only [ParsedSourceRule.cap_of_uncapped free, ParsedSourceRule.cap_of_capped some] at le
      calc min tierDuration ceiling ≤ min (min capped.maxDuration tierDuration) ceiling := le
        _ ≤ min capped.maxDuration tierDuration := min_le_left _ _
        _ ≤ capped.maxDuration := min_le_left _ _
  · intro separate
    constructor
    · intro rule taken
      have best : Best (matchingRules policy.sourceRules sourceIP) rule := by
        rcases matchSourceRule_cases policy.sourceRules sourceIP with ⟨-, none⟩ | ⟨_, some, best⟩
        · rw [taken] at none
          cases none
        · rw [taken] at some
          cases some
          exact best
      refine ⟨best.longestMatch, ?_⟩
      intro other longOther
      rw [durationUnder_of_matching longOther.matching, allowed, sourceCap, taken]
      have le := best.le_of_longestMatch longOther
      rcases le_or_gt rule.maxDuration 0 with free | capped
      · rcases le_or_gt other.maxDuration 0 with free' | capped'
        · simp only [ParsedSourceRule.cap_of_uncapped free, ParsedSourceRule.cap_of_uncapped free',
            le_refl]
        · simp only [ParsedSourceRule.cap_of_uncapped free, ParsedSourceRule.cap_of_capped capped']
          have leaves := separate rule other best.longestMatch longOther free capped'
          exact le_min (le_min leaves (min_le_left _ _)) (min_le_right _ _)
      · exact min_le_min_right ceiling (ParsedSourceRule.cap_mono capped le tierDuration)
    · intro rules perm
      rw [duration_evaluatePolicy]
      have same : ({ policy with sourceRules := rules } : ParsedLifetimePolicy).tierDuration
          identity = tierDuration := allowed
      rw [same, sourceCap_of_perm perm]

namespace SourceRuleSample

/-- A network the address of the sample is in. -/
def network : NetIP.Prefix := ⟨.v4 (BitVec.ofNat 32 0x0a000000), 8⟩

/-- A rule that caps at a minute, and one that has no cap. -/
def minute : ParsedSourceRule := ⟨network, Duration.minute, [], false⟩

def uncapped : ParsedSourceRule := ⟨network, 0, ["permit-pty"], false⟩

/-- A policy with both rules, and nothing else. -/
def policy : ParsedLifetimePolicy := ⟨60 * Duration.minute, [], 0, [], [minute, uncapped]⟩

end SourceRuleSample

open SourceRuleSample in
/-- From `10.1.2.3` both rules match with the same length.  The one without a cap is
taken, and the certificate lives an hour and not a minute. -/
theorem uncapped_rule_wins_tie : matchSourceRule policy.sourceRules "10.1.2.3" = some uncapped ∧
      LongestMatch policy.sourceRules "10.1.2.3" minute ∧
      durationUnder policy .user ⟨"alice", "", "", [], [], [], []⟩ "10.1.2.3"
        (60 * Duration.minute) 0 minute = Duration.minute ∧
      (LifetimePolicyEngine.evaluatePolicy policy .user ⟨"alice", "", "", [], [], [], []⟩
        "10.1.2.3" (60 * Duration.minute) 0).duration = 60 * Duration.minute := by
  have both : matchingRules policy.sourceRules "10.1.2.3" = [minute, uncapped] := by rfl
  refine ⟨by rfl, ⟨?_, ?_⟩, by rfl, by rfl⟩
  · rw [both]
    exact mem_cons_self
  · rw [both]
    intro other matching
    rcases mem_pair.mp matching with rfl | rfl <;> exact le_rfl

end Ssoossh
