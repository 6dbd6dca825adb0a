/-
Module: Formicary.Proofs.Failures
Purpose: Why games cannot be played, and when all games of a tournament that cannot be played fail
  for one reason.
Main exports: Match.start_eq_error_iff, Game.play_eq_error_iff, mem_schedule_iff,
  Tournament.faults, Tournament.hold_eq_error_iff, Tournament.one_fault_iff
-/
import Mathlib
import Formicary.Proofs.Schedule

namespace Formicary

/-! ### Why a game cannot be played -/

theorem Battle.start_eq_error_iff {w : World} {brains : PerColony Brain} {seed : Nat}
    {fault : LayoutFault} :
    Battle.start w brains seed = .error fault ↔ Layout.build w.places = .error fault := by
  rw [Battle.start, bind_eq_error_iff]
  simp [pure, Except.pure]

/-- A match cannot be prepared for a complaint about its settings, or else because its map has no
layout. -/
theorem Match.start_eq_error_iff {w : World} {brains : PerColony Brain} {s : Settings} {e : Fault} :
    Match.start w brains s = .error e ↔
      (∃ c, s.complaint? = some c ∧ e = .settings (.complaint c)) ∨
        s.complaint? = none ∧ ∃ fault, Layout.build w.places = .error fault ∧ e = .layout fault := by
  simp only [← @Battle.start_eq_error_iff w brains s.seed]
  rw [Match.start]
  split
  · rename_i c complaint
    simp [complaint, eq_comm]
  · rename_i accepted
    split
    · rename_i fault failed
      simp [accepted, failed, eq_comm]
    · rename_i b started
      simp [accepted, started]

/-- A game cannot be played with a seed of zero, or else because the map has no layout. -/
theorem Game.play_eq_error_iff {w : World} {red black : Entry} {seed rounds : Nat} {e : Fault} :
    Game.play w red black seed rounds = .error e ↔
      seed = 0 ∧ e = .settings (.complaint .zeroSeed) ∨
        seed ≠ 0 ∧ ∃ fault, Layout.build w.places = .error fault ∧ e = .layout fault := by
  have complaint : (Settings.mk seed rounds (max rounds 1) (max rounds 1)).complaint? =
      if seed = 0 then some .zeroSeed else none := by
    simp [Settings.complaint?]
  rw [Game.play, bind_eq_error_iff, Match.start_eq_error_iff, complaint]
  by_cases zero : seed = 0
  · simp [zero, pure, Except.pure]
  · simp [zero, pure, Except.pure]

/-! ### The faults of a tournament -/

/-- The schedule has a game of any two entries, with either colony, for each seed. -/
theorem mem_schedule_iff {n : Nat} {seeds : List Nat} {f : Fixture n} :
    f ∈ schedule n seeds ↔ f.red ≠ f.black ∧ f.seed ∈ seeds := by
  constructor
  · intro mem
    refine ⟨red_ne_black_of_mem_schedule seeds mem, ?_⟩
    rw [schedule_eq_flatMap, List.mem_flatMap] at mem
    obtain ⟨seed, listed, mem⟩ := mem
    obtain ⟨p, -, rfl⟩ := List.mem_map.1 mem
    exact listed
  · rintro ⟨differ, listed⟩
    rw [← List.count_pos_iff, count_schedule seeds differ f.seed]
    exact List.count_pos_iff.2 listed

/-- Play a game of a schedule. -/
def Fixture.play (w : World) (entries : List Entry) (rounds : Nat) (f : Fixture entries.length) :
    Except Fault Game :=
  Game.play w (entries.get f.red) (entries.get f.black) f.seed rounds

namespace Tournament

/-- The faults for which games of a tournament cannot be played. If the games are played side by
side, each of them may be the one that the tournament fails for. -/
def faults (w : World) (entries : List Entry) (seeds : List Nat) (rounds : Nat) : Set Fault :=
  {e | ∃ f ∈ schedule entries.length seeds, f.play w entries rounds = .error e}

section Faults

variable {w : World} {entries : List Entry} {seeds : List Nat} {rounds : Nat}

/-- If the games are played one after the other, the first that cannot be played is what the
tournament fails for. -/
theorem hold_eq_error_iff (enough : 2 ≤ entries.length) (some : seeds ≠ []) {e : Fault} :
    hold w entries seeds rounds = .error e ↔
      ∃ front f back, schedule entries.length seeds = front ++ f :: back ∧
        (∀ g ∈ front, ∃ game, g.play w entries rounds = .ok game) ∧
        f.play w entries rounds = .error e := by
  have many : ¬entries.length < 2 := Nat.not_lt.2 enough
  simp only [hold, check_eq_error_iff, bind_eq_error_iff, mapM_eq_error_iff, List.isEmpty_iff,
    some, many, pure, Except.pure]
  simp [Fixture.play]

theorem mem_faults_of_hold (enough : 2 ≤ entries.length) (some : seeds ≠ []) {e : Fault}
    (failed : hold w entries seeds rounds = .error e) : e ∈ faults w entries seeds rounds := by
  obtain ⟨front, f, back, split, -, fails⟩ := (hold_eq_error_iff enough some).1 failed
  exact ⟨f, by simp [split], fails⟩

/-- A tournament with a game that cannot be played is not held. -/
theorem exists_hold_eq_error (faulty : (faults w entries seeds rounds).Nonempty) :
    ∃ e, hold w entries seeds rounds = .error e := by
  obtain ⟨e, f, mem, fails⟩ := faulty
  cases held : hold w entries seeds rounds with
  | error e' => exact ⟨e', rfl⟩
  | ok t =>
    obtain ⟨-, -, played, -⟩ := hold_eq_ok_iff.1 held
    obtain ⟨game, plays⟩ := exists_forall₂_iff.1 ⟨t.games, played⟩ f mem
    cases fails.symm.trans plays

/-- Games with a seed of zero fail for it, and all others for the map if it has no layout. -/
theorem mem_faults_iff (enough : 2 ≤ entries.length) {e : Fault} :
    e ∈ faults w entries seeds rounds ↔
      0 ∈ seeds ∧ e = .settings (.complaint .zeroSeed) ∨
        (∃ s ∈ seeds, s ≠ 0) ∧ ∃ fault, Layout.build w.places = .error fault ∧ e = .layout fault := by
  constructor
  · rintro ⟨f, mem, fails⟩
    have listed := (mem_schedule_iff.1 mem).2
    rcases Game.play_eq_error_iff.1 fails with ⟨zero, fault⟩ | ⟨positive, fault⟩
    · exact .inl ⟨zero ▸ listed, fault⟩
    · exact .inr ⟨⟨f.seed, listed, positive⟩, fault⟩
  · -- the first two entries meet with every seed
    have meet (s : Nat) (listed : s ∈ seeds) :
        (⟨⟨0, by omega⟩, ⟨1, by omega⟩, s⟩ : Fixture entries.length) ∈
          schedule entries.length seeds :=
      mem_schedule_iff.2 ⟨by simp, listed⟩
    rintro (⟨zero, fault⟩ | ⟨⟨s, listed, positive⟩, fault⟩)
    · exact ⟨_, meet 0 zero, Game.play_eq_error_iff.2 (.inl ⟨rfl, fault⟩)⟩
    · exact ⟨_, meet s listed, Game.play_eq_error_iff.2 (.inr ⟨positive, fault⟩)⟩

/-- There are two faults only where the map has no layout and just some of the seeds are zero. -/
theorem subsingleton_faults_iff (enough : 2 ≤ entries.length) :
    (faults w entries seeds rounds).Subsingleton ↔
      0 ∉ seeds ∨ (∀ s ∈ seeds, s = 0) ∨ ∃ l, Layout.build w.places = .ok l := by
  constructor
  · intro alike
    by_contra mixed
    push Not at mixed
    obtain ⟨zero, positive, noLayout⟩ := mixed
    cases built : Layout.build w.places with
    | ok l => exact noLayout l built
    | error fault =>
      have asZero : _ ∈ faults w entries seeds rounds := (mem_faults_iff enough).2 (.inl ⟨zero, rfl⟩)
      have asMap : _ ∈ faults w entries seeds rounds :=
        (mem_faults_iff enough).2 (.inr ⟨positive, fault, built, rfl⟩)
      cases alike asZero asMap
  · intro plain e isFault e' isFault'
    have unmixed : ¬(0 ∈ seeds ∧ (∃ s ∈ seeds, s ≠ 0) ∧
        ∃ fault, Layout.build w.places = .error fault) := by
      rintro ⟨zero, ⟨s, listed, positive⟩, fault, failed⟩
      rcases plain with noZero | onlyZero | ⟨l, built⟩
      · exact noZero zero
      · exact positive (onlyZero s listed)
      · cases failed.symm.trans built
    rw [mem_faults_iff enough] at isFault isFault'
    rcases isFault with ⟨zero, rfl⟩ | ⟨positive, fault, failed, rfl⟩ <;>
      rcases isFault' with ⟨zero', rfl⟩ | ⟨positive', fault', failed', rfl⟩
    · rfl
    · exact absurd ⟨zero, positive', fault', failed'⟩ unmixed
    · exact absurd ⟨zero', positive, fault, failed⟩ unmixed
    · cases failed.symm.trans failed'
      rfl

/-- All games of a tournament that cannot be played fail for one reason, unless the map has no layout
and there are both zeros and other numbers among the seeds. Whatever the tournament fails for is a
fault of one of its games, and it fails if any of them does; so where they fail for one reason, it
does not matter which of them is reported. -/
theorem one_fault_iff (enough : 2 ≤ entries.length) (some : seeds ≠ []) :
    ((∀ f ∈ schedule entries.length seeds, ∀ g ∈ schedule entries.length seeds, ∀ e e',
        f.play w entries rounds = .error e → g.play w entries rounds = .error e' → e = e') ↔
      0 ∉ seeds ∨ (∀ s ∈ seeds, s = 0) ∨ ∃ l, Layout.build w.places = .ok l) ∧
    (∀ e, hold w entries seeds rounds = .error e → e ∈ faults w entries seeds rounds) ∧
    ((faults w entries seeds rounds).Nonempty → ∃ e, hold w entries seeds rounds = .error e) ∧
    ((faults w entries seeds rounds).Subsingleton →
      ∀ e, hold w entries seeds rounds = .error e ↔ e ∈ faults w entries seeds rounds) := by
  refine ⟨?alike, fun e => mem_faults_of_hold enough some, exists_hold_eq_error, ?reported⟩
  case alike =>
    rw [← subsingleton_faults_iff enough]
    constructor
    · rintro alike e ⟨f, mem, fails⟩ e' ⟨g, mem', fails'⟩
      exact alike f mem g mem' e e' fails fails'
    · intro alike f mem g mem' e e' fails fails'
      exact alike ⟨f, mem, fails⟩ ⟨g, mem', fails'⟩
  case reported =>
    intro alike e
    refine ⟨mem_faults_of_hold enough some, fun isFault => ?_⟩
    obtain ⟨e', failed⟩ := exists_hold_eq_error ⟨e, isFault⟩
    rwa [alike isFault (mem_faults_of_hold enough some failed)]

end Faults

open Battle (marcher idler)

/-- A map that has its second cell twice. -/
def doubled : World where
  width := 2
  height := 1
  sites := [⟨⟨0, 0⟩, .hill .red⟩, ⟨⟨1, 0⟩, .hill .black⟩, ⟨⟨1, 0⟩, .clear⟩]

/-- With positive seeds all games on this map fail for the repeated cell. -/
theorem doubled_fails_alike :
    hold doubled [⟨"marcher", marcher⟩, ⟨"idler", idler⟩] [3, 1] 5 =
        .error (.layout (.duplicate ⟨1, 0⟩)) ∧
      ∀ f ∈ schedule 2 [3, 1], ∀ e,
        f.play doubled [⟨"marcher", marcher⟩, ⟨"idler", idler⟩] 5 = .error e →
          e = .layout (.duplicate ⟨1, 0⟩) := by
  have first : (⟨0, 1, 3⟩ : Fixture 2) ∈ schedule 2 [3, 1] := by decide
  have fails : Fixture.play doubled [⟨"marcher", marcher⟩, ⟨"idler", idler⟩] 5 ⟨0, 1, 3⟩ =
      .error (.layout (.duplicate ⟨1, 0⟩)) :=
    Game.play_eq_error_iff.2 (.inr ⟨by decide, _, rfl, rfl⟩)
  obtain ⟨alike, -, -, reported⟩ :=
    @one_fault_iff doubled [⟨"marcher", marcher⟩, ⟨"idler", idler⟩] [3, 1] 5 (by decide) (by decide)
  have same := alike.2 (.inl (by decide))
  refine ⟨(reported ?_ _).2 ⟨_, first, fails⟩, fun f mem e failsToo => ?_⟩
  · rintro e ⟨f, mem, fails⟩ e' ⟨g, mem', fails'⟩
    exact same f mem g mem' e e' fails fails'
  · exact same f mem _ first e _ failsToo fails

/-- If one of the seeds is zero, a game fails for that, and another for the cell. -/
theorem doubled_fails_apart :
    ¬∀ f ∈ schedule 2 [0, 1], ∀ g ∈ schedule 2 [0, 1], ∀ e e',
      f.play doubled [⟨"marcher", marcher⟩, ⟨"idler", idler⟩] 5 = .error e →
        g.play doubled [⟨"marcher", marcher⟩, ⟨"idler", idler⟩] 5 = .error e' → e = e' := by
  intro alike
  have asZero : Fixture.play doubled [⟨"marcher", marcher⟩, ⟨"idler", idler⟩] 5 ⟨0, 1, 0⟩ =
      .error (.settings (.complaint .zeroSeed)) :=
    Game.play_eq_error_iff.2 (.inl ⟨rfl, rfl⟩)
  have asMap : Fixture.play doubled [⟨"marcher", marcher⟩, ⟨"idler", idler⟩] 5 ⟨0, 1, 1⟩ =
      .error (.layout (.duplicate ⟨1, 0⟩)) :=
    Game.play_eq_error_iff.2 (.inr ⟨by decide, _, rfl, rfl⟩)
  cases alike ⟨0, 1, 0⟩ (by decide) ⟨0, 1, 1⟩ (by decide) _ _ asZero asMap

end Tournament

end Formicary
