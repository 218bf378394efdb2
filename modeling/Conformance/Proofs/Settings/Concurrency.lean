import Conformance.CommandLine.Run
import Conformance.Proofs.Except
import Conformance.Proofs.Toml.Binary
import Conformance.Proofs.Toml.Integers

/-!
# Limits on concurrent scans

Settings are accepted with any limit above zero that an integer of a text can tell, but only so many
permits can be kept count of. With a greater limit there can be no fleet, and the commands that need
one break off; no other command does, and none does with other settings.
-/
namespace Conformance

variable {α : Type} {s : Settings} {text : String} {n : Nat}

open Toml (Value)

theorem Fleet.admits_iff : Fleet.admits n = true ↔ n < 2 ^ 61 := by
  have hmost : mostPermits = 2 ^ 61 - 1 := rfl
  rw [admits, decide_eq_true_eq, permits, hmost]
  omega

/-! ## Limits of accepted settings -/

/-- What holds of a default, and of all that is read from a value with integers of 64 bits, holds of
what is given. -/
theorem of_given {P : α → Prop} {read : Value → Option α} {default a : α} {field : Option Value}
    (hdefault : P default) (hfield : ∀ v, field = some v → v.IsSized)
    (hread : ∀ v, v.IsSized → ∀ a, read v = some a → P a) (h : given read default field = some a) :
    P a := by
  cases field with
  | none =>
    cases h
    exact hdefault
  | some v => exact hread v (hfield v rfl) a h

namespace Settings

theorem of_only? {P : α → Prop} {name : String} {read : Value → Option α} {default a : α} {v : Value}
    (hdefault : P default) (hv : v.IsSized)
    (hread : ∀ v, v.IsSized → ∀ a, read v = some a → P a) (h : only? name read default v = some a) :
    P a := by
  rw [only?] at h
  split at h
  · next field hfields =>
    exact of_given hdefault (fun w hw => hv.fields? hfields w (by simp [hw])) hread h
  · cases h

theorem limit_lt_of_ofToml? {v : Value} (hv : v.IsSized) (h : ofToml? v = some s) :
    s.maxConcurrentScans < 2 ^ 63 := by
  rw [ofToml?] at h
  dsimp only at h
  split at h
  · next paths templates classification fleet observability devices hfields =>
    obtain ⟨locations, -, h⟩ := Option.bind_eq_some_iff.mp h
    obtain ⟨files, -, h⟩ := Option.bind_eq_some_iff.mp h
    obtain ⟨markers, -, h⟩ := Option.bind_eq_some_iff.mp h
    obtain ⟨limit, hlimit, h⟩ := Option.bind_eq_some_iff.mp h
    obtain ⟨monitoring, -, h⟩ := Option.bind_eq_some_iff.mp h
    obtain ⟨inventory, -, h⟩ := Option.bind_eq_some_iff.mp h
    cases h
    refine of_given (P := (· < 2 ^ 63)) (by decide) (fun w hw => hv.fields? hfields w (by simp [hw]))
      (fun w hw limit => ?_) hlimit
    exact of_only? (by decide) hw fun _ hcount _ => hcount.count?_lt
  · cases h

theorem parse_eq_ok_iff :
    parse text = .ok s ↔ (Toml.parse? text).bind ofToml? = some s ∧ s.problems = [] := by
  rw [parse]
  split
  · next hnone => simp [hnone]
  · next other hother =>
    rw [hother, Option.some.injEq]
    split
    · next hproblems =>
      rw [Except.ok.injEq]
      exact ⟨fun h => ⟨h, h ▸ List.isEmpty_iff.mp hproblems⟩, And.left⟩
    · next hproblems =>
      refine ⟨fun h => (nomatch h), fun ⟨h, hnone⟩ => absurd ?_ hproblems⟩
      rw [h, List.isEmpty_iff, hnone]

theorem limit_pos_of_problems (h : s.problems = []) : 1 ≤ s.maxConcurrentScans := by
  simp only [problems, List.append_eq_nil_iff] at h
  by_contra hzero
  rw [if_pos (by omega)] at h
  cases h.1.2

theorem limit_of_parse (h : parse text = .ok s) :
    1 ≤ s.maxConcurrentScans ∧ s.maxConcurrentScans < 2 ^ 63 := by
  obtain ⟨hread, hproblems⟩ := parse_eq_ok_iff.mp h
  obtain ⟨v, hvalue, hread⟩ := Option.bind_eq_some_iff.mp hread
  exact ⟨limit_pos_of_problems hproblems, limit_lt_of_ofToml? (Toml.isSized_of_parse? hvalue) hread⟩

/-! ## A text for every limit -/

def limitHeading : List Char :=
  "[\"fleet\"]\n\"max_concurrent_scans\"=".toList

def limitTokens (word : String) : List Toml.Token :=
  [.mark '[', .quoted "fleet" false, .mark ']', .newline, .quoted "max_concurrent_scans" false,
    .mark '=', .word word]

def limitText (n : Nat) : String :=
  String.ofList (limitHeading ++ Toml.binary n)

theorem tokens_limitText (n : Nat) :
    Toml.tokens (limitText n).toList = some (limitTokens (String.ofList (Toml.binary n))) := by
  have hword : ∀ c ∈ Nat.toDigits 2 n, Toml.isWord c = true := fun c => Toml.isWord_of_mem_toDigits
  have hreturn : '\r' ∉ limitHeading ++ Toml.binary n := by
    rw [List.mem_append, Toml.binary, List.mem_cons, List.mem_cons]
    rintro (h | h | h | h)
    · revert h
      decide +kernel
    · cases h
    · cases h
    · exact absurd (hword _ h) (by decide)
  have hstart : Toml.readAll .between (limitHeading ++ ['0', 'b']) =
      some ((limitTokens "").dropLast, .word ['b', '0']) := by decide +kernel
  have hrest := Toml.tokensFrom_append hstart (Nat.toDigits 2 n)
  rw [Toml.tokensFrom_word hword, List.append_assoc] at hrest
  rw [limitText, String.toList_ofList, Toml.tokens]
  change (Toml.lineFeeds (limitHeading ++ Toml.binary n)).bind _ = _
  rw [Toml.lineFeeds_of_notMem hreturn, Option.bind_some]
  exact hrest

theorem statements_limitText (h : n < 2 ^ 63) :
    Toml.statements? (limitTokens (String.ofList (Toml.binary n))) =
      some [.table ["fleet"], .entry ["max_concurrent_scans"] (.integer n)] := by
  have hvalue : Toml.value? (Toml.nestingLimit - 1) [.word (String.ofList (Toml.binary n))] =
      some (.integer n) := by
    rw [Toml.value?_word, Toml.scalar?_binary h]
  generalize String.ofList (Toml.binary n) = word at hvalue
  have hlines : Toml.pieces (· == .newline) 0 (limitTokens word) =
      some [(limitTokens word).take 3, (limitTokens word).drop 4] := rfl
  have hheader : Toml.statement? (Toml.strip Toml.Token.isBlank ((limitTokens word).take 3)) =
      some (some (.table ["fleet"])) := rfl
  have hentry : Toml.statement? (Toml.strip Toml.Token.isBlank ((limitTokens word).drop 4)) =
      some (some (.entry ["max_concurrent_scans"] (.integer n))) := by
    change Option.map _ (do
      return (["max_concurrent_scans"], ← Toml.value? (Toml.nestingLimit - 1) [.word word])) = _
    rw [hvalue]
    rfl
  rw [Toml.statements?, hlines, Option.bind_eq_bind, Option.bind_some]
  simp [hheader, hentry]

theorem parse_limitText (hpos : 1 ≤ n) (h : n < 2 ^ 63) :
    parse (limitText n) = .ok { maxConcurrentScans := n } := by
  have hvalue : Toml.parse? (limitText n) =
      some (.table [("fleet", .table [("max_concurrent_scans", .integer n)])]) := by
    rw [Toml.parse?, tokens_limitText, Option.bind_eq_bind, Option.bind_some,
      statements_limitText h]
    rfl
  have hempty : emptyFields { maxConcurrentScans := n } = [] := by
    have hstandard : ({} : Settings).emptyFields = [] := by decide +kernel
    rw [emptyFields] at hstandard ⊢
    exact hstandard
  have hzero : n ≠ 0 := by omega
  rw [parse_eq_ok_iff, hvalue]
  refine ⟨rfl, ?_⟩
  rw [problems, hempty, if_neg hzero]
  rfl

end Settings

/-! ## Commands that break off -/

namespace CommandLine

variable {json : Bool} {reason : String} {now : Moment} {t : FileTree}
  {command : Command}

/-- The command comes to the point where it needs a fleet: a watch does, and an audit of devices that
are found. -/
def NeedsFleet (s : Settings) : Command → Prop
  | .audit names _ => ∃ devices, s.select names = .ok devices
  | .watch => True
  | .status _ | .checkTemplates => False

@[simp] theorem Finish.success_ne_aborted (output : String) : success output ≠ aborted := by
  simp [success, aborted]

@[simp] theorem Finish.failure_ne_aborted (output : String) : failure output ≠ aborted := by
  simp [failure, aborted]

@[simp] theorem Finish.ofSuccess_ne_aborted (isSuccess : Bool) (output : String) :
    ofSuccess isSuccess output ≠ aborted := by
  cases isSuccess
  · exact failure_ne_aborted output
  · exact success_ne_aborted output

theorem perform_aborted_iff (s : Setting) :
    (s.perform json reason now t command).1 = .aborted ↔
      NeedsFleet s.settings command ∧ 2 ^ 61 ≤ s.settings.maxConcurrentScans := by
  rw [← Nat.not_lt, ← Fleet.admits_iff]
  cases command with
  | audit names force =>
    rw [Setting.perform, NeedsFleet]
    cases s.settings.select names with
    | error cause => simp
    | ok devices =>
      by_cases hadmits : Fleet.admits s.settings.maxConcurrentScans = true <;> simp [hadmits]
  | status names =>
    rw [Setting.perform, NeedsFleet]
    cases s.settings.select names <;> simp
  | checkTemplates => simp [Setting.perform, NeedsFleet]
  | watch =>
    rw [Setting.perform, NeedsFleet]
    by_cases hadmits : Fleet.admits s.settings.maxConcurrentScans = true
    · rw [if_pos hadmits]
      cases t.open? s.settings.locations.snapshots <;> simp [hadmits]
    · simp [hadmits]

theorem perform_of_aborted (s : Setting) (h : (s.perform json reason now t command).1 = .aborted) :
    (s.perform json reason now t command).2 = t := by
  obtain ⟨hneeds, hlimit⟩ := (perform_aborted_iff s).mp h
  rw [← Nat.not_lt, ← Fleet.admits_iff] at hlimit
  cases command with
  | audit names force =>
    obtain ⟨devices, hselect⟩ := hneeds
    rw [Setting.perform, hselect]
    dsimp only
    rw [if_neg hlimit]
  | status names => exact hneeds.elim
  | checkTemplates => exact hneeds.elim
  | watch => rw [Setting.perform, if_neg hlimit]

/-- Where the settings are has no influence on the limit. -/
theorem limit_of_start? {p : Path} {setting : Setting} (hread : t.readText p = .ok text)
    (hparse : Settings.parse text = .ok s) (hstart : start? t p = some setting) :
    setting.settings.maxConcurrentScans = s.maxConcurrentScans := by
  obtain ⟨settings, hload, hstart⟩ := Option.bind_eq_some_iff.mp hstart
  obtain ⟨auditor, -, hstart⟩ := Option.bind_eq_some_iff.mp hstart
  cases hstart
  obtain ⟨_, hok, rfl⟩ := Except.exists_eq_ok (f := id) (Option.map_id_apply.trans hload)
  obtain ⟨text', htext, hload⟩ := Except.bind_eq_ok.mp hok
  obtain ⟨s', hparse', hload⟩ := Except.bind_eq_ok.mp hload
  rw [hread] at htext
  cases htext
  rw [hparse] at hparse'
  cases hparse'
  split at hload <;> cases hload <;> rfl

/-- Settings are accepted with every limit from one up to 63 bits. There are permits enough for the
limits below 2 ^ 61, and with these the program never breaks off. With the limits above, it breaks off
whenever it comes to where it needs a fleet, and has changed no file by then. -/
theorem aborted_iff_of_limit (n : Nat) :
    ((∃ text s, Settings.parse text = .ok s ∧ s.maxConcurrentScans = n) ↔ 1 ≤ n ∧ n < 2 ^ 63) ∧
    (Fleet.permits n ≤ Fleet.mostPermits ↔ n < 2 ^ 61) ∧
    ∀ text s, Settings.parse text = .ok s → s.maxConcurrentScans = n →
      ∀ args invocation reason now t, Invocation.parse? args = some invocation →
        t.readText invocation.settings = .ok text →
        ((run args reason now t).1 = .aborted ↔ 2 ^ 61 ≤ n ∧
          ∃ setting, start? t invocation.settings = some setting ∧
            NeedsFleet setting.settings invocation.command) ∧
        ((run args reason now t).1 = .aborted → (run args reason now t).2 = t) := by
  refine ⟨⟨?_, ?_⟩, ?_, ?_⟩
  · rintro ⟨text, s, hparse, rfl⟩
    exact Settings.limit_of_parse hparse
  · rintro ⟨hpos, hlt⟩
    exact ⟨_, _, Settings.parse_limitText hpos hlt, rfl⟩
  · rw [← Fleet.admits_iff, Fleet.admits, decide_eq_true_eq]
  · rintro text s hparse rfl args invocation reason now t hinvocation hread
    cases hstart : start? t invocation.settings with
    | none => simp [run, hinvocation, hstart]
    | some setting =>
      have hrun : run args reason now t =
          setting.perform invocation.json reason now t invocation.command := by
        simp only [run, hinvocation, hstart]
      rw [hrun, ← limit_of_start? hread hparse hstart]
      refine ⟨?_, perform_of_aborted setting⟩
      rw [perform_aborted_iff, and_comm]
      simp

end CommandLine

def Settings.overlimitText : String :=
  "[\"fleet\"]\n\"max_concurrent_scans\"=2305843009213693952"

/-- Files with these settings, with empty templates and no devices. -/
def FileTree.overlimit : FileTree where
  entries := [
    (["audit.toml"], .file (Text.toBytes Settings.overlimitText)),
    (["templates"], .directory),
    (["templates", "baseline.conf"], .file []),
    (["templates", "terms.csv"], .file (Text.toBytes "term,regex\n")),
    (["templates", "variables.csv"], .file (Text.toBytes "variable,term\n"))]
  here := []

/-- These settings are accepted, but with them there are too few permits and an audit breaks off. -/
theorem CommandLine.run_overlimit :
    let s : Settings := { maxConcurrentScans := 2 ^ 61 }
    Settings.parse Settings.overlimitText = .ok s ∧
      ¬ Fleet.permits s.maxConcurrentScans ≤ Fleet.mostPermits ∧
      (run ["audit"] "" ⟨2024, 5, 1, 12, 0, 0⟩ .overlimit).1 = .aborted ∧
      (run ["watch"] "" ⟨2024, 5, 1, 12, 0, 0⟩ .overlimit).1 = .aborted := by
  refine ⟨?_, ?_, ?_, ?_⟩
  all_goals decide +kernel

end Conformance
