import Mathlib.Tactic.SplitIfs
import BlockExplorer.Proofs.Wiring

/-!
What accepted settings can be relied on for. Sizes and the port are at least one and the bounds of
the pool in order, the database is addressed as one, the level is one of the known ones, and the
origins are the parts of their own list. A time-out is above zero unless its variable spells
not-a-number, which is not at or below zero either.
-/

namespace BlockExplorer

namespace Binary64

/-- The three letters of not-a-number in either case, with a sign before them or not. -/
def SpellsNan (text : Text) : Prop :=
  ∃ sign ∈ [[], [0x2B], [0x2D]], ∃ first ∈ [0x6E, 0x4E], ∃ second ∈ [0x61, 0x41],
    ∃ third ∈ [0x6E, 0x4E], text = sign ++ [first, second, third]

theorem not_spells_nan_nil : ¬SpellsNan [] := by
  rintro ⟨sign, -, first, -, second, -, third, -, spelled⟩
  exact List.append_ne_nil_of_right_ne_nil sign (List.cons_ne_nil _ _) spelled.symm

theorem is_positive_iff {value : Binary64} :
    value.isPositive = true ↔ value ≠ .nan ∧ value.isNonpositive = false := by
  cases value <;> simp [isPositive]

theorem of_ratio_ne_nan (negative : Bool) (numerator denominator : Nat) :
    ofRatio negative numerator denominator ≠ .nan := by
  simp only [ofRatio]
  split_ifs <;> nofun

theorem of_decimal_ne_nan (negative : Bool) (digits : Nat) (exponent : Int) :
    ofDecimal negative digits exponent ≠ .nan := by
  simp only [ofDecimal]
  split_ifs
  · nofun
  · nofun
  · nofun
  · exact of_ratio_ne_nan _ _ _

theorem scaled_ne_nan (power? : Option Int) (negative : Bool) (digits places : Nat) :
    (power? >>= fun power => some (ofDecimal negative digits (power - places))) ≠ some .nan := by
  intro found
  obtain ⟨power, _, same⟩ := Option.bind_eq_some_iff.mp found
  exact of_decimal_ne_nan _ _ _ (Option.some.inj same)

theorem unsigned?_ne_nan (value? : Nat → Option Nat) (negative : Bool) (text : Text) :
    unsigned? value? negative text ≠ some .nan := by
  simp only [unsigned?]
  split <;> split
  · nofun
  · exact scaled_ne_nan _ _ _ _
  · nofun
  · exact scaled_ne_nan _ _ _ _

/-- A sign is a plus, a minus or nothing. -/
theorem take_sign_eq (text : Text) :
    ∃ sign ∈ [[], [0x2B], [0x2D]], text = sign ++ (Numeral.takeSign text).2 := by
  unfold Numeral.takeSign
  split
  · exact ⟨[0x2B], by decide, rfl⟩
  · exact ⟨[0x2D], by decide, rfl⟩
  · exact ⟨[], by decide, rfl⟩

theorem letter_of_folded {c small : Nat} (letter : 0x61 ≤ small)
    (folded : (if 0x41 ≤ c ∧ c ≤ 0x5A then c + 32 else c) = small) : c ∈ [small, small - 32] := by
  rw [List.mem_pair]
  split at folded <;> omega

theorem parse?_of_spells_nan {text : Text} (spelled : SpellsNan text) :
    parse? text = some .nan := by
  obtain ⟨sign, signs, first, firsts, second, seconds, third, thirds, rfl⟩ := spelled
  simp only [List.mem_cons, List.not_mem_nil, or_false] at signs firsts seconds thirds
  rcases signs with rfl | rfl | rfl <;> rcases firsts with rfl | rfl <;>
    rcases seconds with rfl | rfl <;> rcases thirds with rfl | rfl <;> decide

theorem parse?_eq_nan_iff {text : Text} : parse? text = some .nan ↔ SpellsNan text := by
  refine ⟨fun found => ?_, parse?_of_spells_nan⟩
  obtain ⟨sign, signs, split⟩ := take_sign_eq text
  simp only [parse?] at found
  split at found
  · cases found
  split at found
  · next named =>
      obtain ⟨first, rest, body, firstFolded, named⟩ := List.map_eq_cons_iff.mp named
      obtain ⟨second, rest, rfl, secondFolded, named⟩ := List.map_eq_cons_iff.mp named
      obtain ⟨third, rest, rfl, thirdFolded, named⟩ := List.map_eq_cons_iff.mp named
      obtain rfl := List.map_eq_nil_iff.mp named
      rw [body] at split
      exact ⟨sign, signs, first, letter_of_folded (by decide) firstFolded, second,
        letter_of_folded (by decide) secondFolded, third, letter_of_folded (by decide) thirdFolded,
        split⟩
  · exact absurd found (unsigned?_ne_nan _ _ _)

end Binary64

namespace Settings

open Binary64

/-- A time-out that is read from a text: above zero, unless the text spells not-a-number. -/
structure IsTimeout (value : Binary64) (raw : Text) : Prop where
  positive : value.isPositive = true ↔ ¬SpellsNan raw
  nan : SpellsNan raw → value = .nan

theorem number_is_timeout {environment : Environment} {setting : String}
    {fallback value : Binary64} (usual : fallback.isPositive = true)
    (read : number environment setting fallback = .ok value) :
    IsTimeout value (trimmed environment setting) := by
  unfold number at read
  split at read
  · next blank =>
      cases read
      rw [blank]
      exact ⟨iff_of_true usual not_spells_nan_nil, fun spelled => absurd spelled not_spells_nan_nil⟩
  · split at read
    · cases read
    · next parsed =>
        split at read
        · cases read
        · next above =>
            cases read
            rw [Bool.not_eq_true] at above
            have spelled : SpellsNan (trimmed environment setting) ↔ value = .nan := by
              rw [← parse?_eq_nan_iff, parsed, Option.some.injEq]
            exact ⟨by rw [is_positive_iff, and_iff_left above, spelled], spelled.mp⟩

structure IsPart (part : Text) : Prop where
  filled : part ≠ []
  tight : Text.trim CodePoint.isBlank part = part
  single : comma ∉ part

theorem is_part_of_mem_parts {list part : Text} (member : part ∈ parts list) : IsPart part := by
  obtain ⟨inside, filled⟩ := List.mem_filter.mp member
  obtain ⟨piece, between, rfl⟩ := List.mem_map.mp inside
  refine ⟨?_, Text.trim_trim _ piece, fun has => ?_⟩
  · intro empty
    rw [empty] at filled
    cases filled
  · exact Text.not_mem_of_mem_split between (Text.mem_of_mem_trim has)

/-- Parts are read back from the list that they are joined to. -/
theorem parts_join {pieces : List Text} (each : ∀ piece ∈ pieces, IsPart piece) :
    parts (Text.join comma pieces) = pieces := by
  cases pieces with
  | nil => rfl
  | cons piece rest =>
      have apart := Text.split_join (List.cons_ne_nil piece rest) fun part member =>
        (each part member).single
      have tight : (piece :: rest).map (Text.trim CodePoint.isBlank) = piece :: rest := by
        rw [List.map_congr_left fun part member => (each part member).tight]
        exact List.map_id' _
      have filled : ∀ part ∈ piece :: rest, (!part.isEmpty) = true := by
        intro part member
        simp [(each part member).filled]
      rw [parts, apart, tight, List.filter_eq_self.mpr filled]

structure Sane (settings : Settings) : Prop where
  least : 1 ≤ settings.poolMinSize
  bounds : settings.poolMinSize ≤ settings.poolMaxSize
  fanout : 1 ≤ settings.fanout
  port : 1 ≤ settings.port
  database : ∃ scheme ∈ ["postgres://", "postgresql://"], ∃ rest,
    settings.databaseUrl = Text.ofString scheme ++ rest
  known : settings.logLevel ∈ logLevels
  upper : Text.toUpper settings.logLevel = settings.logLevel
  origins : ∀ origin ∈ settings.corsOrigins, IsPart origin
  listed : parts (Text.join comma settings.corsOrigins) = settings.corsOrigins

theorem to_upper_of_known : ∀ level ∈ logLevels, Text.toUpper level = level := by decide

theorem scheme_of_is_database_url {url : Text} (database : isDatabaseUrl url = true) :
    ∃ scheme ∈ ["postgres://", "postgresql://"], ∃ rest, url = Text.ofString scheme ++ rest := by
  rcases Bool.or_eq_true_iff.mp database with short | long
  · obtain ⟨rest, split⟩ := List.isPrefixOf_iff_prefix.mp short
    exact ⟨_, by decide, rest, split.symm⟩
  · obtain ⟨rest, split⟩ := List.isPrefixOf_iff_prefix.mp long
    exact ⟨_, by decide, rest, split.symm⟩

theorem sane_of_accepted {environment : Environment} {settings : Settings}
    (accepted : ofEnvironment environment = .ok settings) : settings.Sane := by
  obtain ⟨held, consistent⟩ := of_environment_eq_ok_iff.mp accepted
  have known : settings.logLevel ∈ logLevels := List.contains_iff_mem.mp consistent.log
  have origins : ∀ origin ∈ settings.corsOrigins, IsPart origin := by
    rw [held.corsOrigins]
    exact fun origin => is_part_of_mem_parts
  exact {
    least := integer_at_least held.poolMinSize (by decide)
    bounds := consistent.pool
    fanout := integer_at_least held.fanout (by decide)
    port := integer_at_least held.port (by decide)
    database := scheme_of_is_database_url consistent.database
    known
    upper := to_upper_of_known _ known
    origins
    listed := parts_join origins }

end Settings

/-- Settings are made of what is accepted, and nothing but a fault of the configuration keeps them
from being made. -/
theorem App.create_eq_ok_iff {environment : Environment} {settings : Settings} :
    create environment = .ok ⟨settings, none⟩ ↔
      Settings.ofEnvironment environment = .ok settings := by
  rw [create]
  cases Settings.ofEnvironment environment with
  | ok found => simp
  | error fault => simp

/-- An environment is refused for a fault of the configuration, or gives settings. These are sane
and their level is that of the environment in capital letters. A time-out is above zero, unless its
variable spells not-a-number; then it is not-a-number. -/
theorem accepted_settings_sane_unless_nan (environment : Environment) :
    ((∃ fault, App.create environment = .error (.configuration fault)) ∨
      ∃ settings, App.create environment = .ok ⟨settings, none⟩) ∧
    ∀ settings, App.create environment = .ok ⟨settings, none⟩ →
      settings.Sane ∧
      settings.logLevel = Text.toUpper (Settings.text environment "LOG_LEVEL" "INFO") ∧
      Settings.IsTimeout settings.commandTimeout
        (Settings.trimmed environment "DB_COMMAND_TIMEOUT") ∧
      Settings.IsTimeout settings.rpcTimeout (Settings.trimmed environment "RPC_TIMEOUT") := by
  constructor
  · rw [App.create]
    cases Settings.ofEnvironment environment with
    | ok settings => exact .inr ⟨settings, rfl⟩
    | error fault => exact .inl ⟨fault, rfl⟩
  · intro settings created
    have accepted := App.create_eq_ok_iff.mp created
    have held := (Settings.of_environment_eq_ok_iff.mp accepted).1
    exact ⟨Settings.sane_of_accepted accepted, held.logLevel,
      Settings.number_is_timeout (by decide) held.commandTimeout,
      Settings.number_is_timeout (by decide) held.rpcTimeout⟩

namespace Settings

/-- Nothing is set but one time-out, which is not-a-number with a minus and blanks around it. -/
def endless : Environment := fun setting =>
  if setting = "RPC_TIMEOUT" then some (Text.ofString " -NaN\n") else none

theorem endless_accepted : ∃ settings, App.create endless = .ok ⟨settings, none⟩ := by
  have accepted : (ofEnvironment endless).isOk = true := by decide
  cases found : ofEnvironment endless with
  | ok settings => exact ⟨settings, App.create_eq_ok_iff.mpr found⟩
  | error fault =>
      rw [found] at accepted
      cases accepted

theorem endless_spells_nan : Binary64.SpellsNan (trimmed endless "RPC_TIMEOUT") :=
  ⟨[0x2D], by decide, 0x4E, by decide, 0x61, by decide, 0x4E, by decide, by decide⟩

end Settings

theorem accepted_settings_sane_unless_nan_endless :
    ∃ settings, App.create Settings.endless = .ok ⟨settings, none⟩ ∧ settings.Sane ∧
      settings.rpcTimeout = .nan ∧ settings.commandTimeout.isPositive = true := by
  obtain ⟨settings, created⟩ := Settings.endless_accepted
  obtain ⟨sane, -, command, rpc⟩ := (accepted_settings_sane_unless_nan _).2 settings created
  exact ⟨settings, created, sane, rpc.nan Settings.endless_spells_nan,
    command.positive.mpr Binary64.not_spells_nan_nil⟩

end BlockExplorer
