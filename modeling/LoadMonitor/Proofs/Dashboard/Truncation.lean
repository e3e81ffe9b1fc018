import LoadMonitor.Proofs.Dashboard.Showing
import LoadMonitor.Proofs.Rehearsal.Limit
import LoadMonitor.Rehearsal.Script

/-!
# Screens that fail

A screen that fails only truncates. Whatever it refuses, and whichever flushes fail, it holds the
beginning of what a screen without a limit would hold, no question is asked that would not be asked
before that one, and a tick tells whether all of its output has been accepted.
-/

namespace LoadMonitor

/-! ## Threads that give up -/

theorem Tick.givesUp : GivesUp Tick.effect fun e => .finished (.error e) where
  refused {s} := by
    intro text next heffect e
    cases s with
    | drawing writing =>
        cases writing with
        | pending _ _ => cases heffect; rfl
        | finished _ => cases heffect
    | clearing => cases heffect; rfl
    | _ => cases heffect
  halts _ := rfl
  prints {s} := by
    intro text next heffect
    cases s with
    | drawing writing => cases writing <;> cases heffect
    | _ => cases heffect

theorem Writing.givesUp : GivesUp Writing.effect fun e => .finished (.error e) where
  refused {s} := by
    intro text next heffect e
    cases s with
    | pending _ _ => cases heffect; rfl
    | finished _ => cases heffect
  halts _ := rfl
  prints {s} := by
    intro text next heffect
    cases s <;> cases heffect

/-! ## Texts in a row -/

namespace Writing

variable {ω : Type} [Service ω]

/-- Before a screen without a limit all texts are written. -/
theorem play_unlimited {w : Rehearsal ω} (hlimit : w.screen.limit = none) {texts : List String}
    {steps : Nat} (hsteps : texts.length ≤ steps) :
    (w.play effect steps (.start texts)).1 = .finished (.ok ()) ∧
    (w.play effect steps (.start texts)).2.screen.accepted =
      w.screen.accepted ++ (String.join texts).toUTF8 := by
  induction texts generalizing w steps with
  | nil =>
      have hover : effect (.start []) = none := rfl
      rw [Rehearsal.play_over hover]
      exact ⟨rfl, by simp⟩
  | cons text texts ih =>
      obtain ⟨steps, rfl⟩ : ∃ n, steps = n + 1 := Nat.exists_eq_succ_of_ne_zero (by
        rw [List.length_cons] at hsteps
        omega)
      obtain ⟨next, heffect, hrest⟩ : ∃ next,
          effect (.start (text :: texts)) = some (.write text next) ∧
            next (.ok ()) = start texts := ⟨_, rfl, rfl⟩
      have hwrite := ScriptedScreen.write_fitting (ScriptedScreen.room_of_none hlimit text.toUTF8.size)
      have hnext := fun hlimit => ih (w := (w.write text).2) hlimit (Nat.le_of_succ_le_succ hsteps)
      simp only [Rehearsal.screen_write, hwrite] at hnext
      rw [Rehearsal.play_step heffect]
      simp only [Rehearsal.perform, Rehearsal.write_fst, hwrite, hrest]
      obtain ⟨hfinished, haccepted⟩ := hnext hlimit
      refine ⟨hfinished, haccepted.trans ?_⟩
      simp [ByteArray.append_assoc]

end Writing

/-! ## Ticks in a row -/

/-- How a screen behaves during one tick, its limit apart: which error it gives when it refuses a
text, and whether it fails to flush. -/
structure Mood where
  refusal : WriteError
  flushFailure : Option WriteError

/-- What has come of ticks. -/
structure Ticked (ω : Type) where
  /-- How each of them has ended. -/
  ends : List Tick
  /-- The questions of all of them, with their answers. -/
  calls : List Event
  world : Rehearsal ω

namespace Rehearsal

variable {ω : Type} {w v : Rehearsal ω} {limit steps : Nat}

/-- The same world with the screen in a mood. -/
def inMood (w : Rehearsal ω) (mood : Mood) : Rehearsal ω :=
  { w with screen := { w.screen with
    refusal := mood.refusal, flushFailure := mood.flushFailure } }

/-- A tick for each of the moods in which the screen finds itself. -/
def ticks [Service ω] (steps : Nat) : List Mood → Rehearsal ω → Ticked ω
  | [], w => ⟨[], [], w⟩
  | mood :: moods, w =>
    let w := w.inMood mood
    let (tick, after) := w.play Tick.effect steps .clearing
    let later := after.ticks steps moods
    ⟨tick :: later.ends, Event.calls (w.trace Tick.effect steps .clearing) ++ later.calls,
      later.world⟩

theorem flush_inMood (mood : Mood) (w : Rehearsal ω) :
    (w.inMood mood).screen.flush.1 = .ok () ↔ mood.flushFailure = none := by
  unfold inMood ScriptedScreen.flush
  cases mood.flushFailure <;> simp

theorem Truncated.inMood (h : Truncated limit w v) (mood : Mood) :
    Truncated limit (w.inMood mood) (v.inMood mood) := by
  cases h with
  | same hlimit hsize => exact .same (w := w.inMood mood) hlimit hsize
  | full hlimit hnone hexceeds hbeginning => exact .full hlimit hnone hexceeds hbeginning

variable [Service ω]

/-- A full screen is not even wiped, and nothing is asked. -/
theorem play_full (hlimit : w.screen.limit = some limit) (hfull : w.screen.accepted.size = limit)
    (hsteps : Tick.patience ≤ steps) :
    (w.play Tick.effect steps .clearing).1 = .finished (.error w.screen.refusal) ∧
    (w.play Tick.effect steps .clearing).2.screen.accepted = w.screen.accepted ∧
    Event.calls (w.trace Tick.effect steps .clearing) = [] := by
  obtain ⟨steps, rfl⟩ : ∃ n, steps = n + 1 := Nat.exists_eq_succ_of_ne_zero (by
    have hpatience : 0 < Tick.patience := by decide
    omega)
  obtain ⟨next, heffect⟩ : ∃ next,
      Tick.effect .clearing = some (.write Frame.clearScreen next) := ⟨_, rfl⟩
  have hsize := Nat.le_of_eq hfull
  -- There is no room for the control sequence, so the tick gives up at its first step.
  have hexcess : w.screen.room Frame.clearScreen.toUTF8.size ≠ Frame.clearScreen.toUTF8.size := by
    have hsome : 0 < Frame.clearScreen.toUTF8.size := by decide
    have hiff := ScriptedScreen.room_eq_iff hlimit hsize Frame.clearScreen.toUTF8.size
    omega
  obtain ⟨hgone, _⟩ := perform_excess Tick.givesUp hlimit hsize heffect hexcess
  have haccepted : (w.perform (.write Frame.clearScreen next)).2.screen.accepted =
      w.screen.accepted := by
    simp only [perform, screen_write, ScriptedScreen.accepted_write hlimit hsize]
    rw [extract_append_of_le_size (Nat.le_of_eq hfull.symm), extract_of_size_le hsize]
  have hover : Tick.effect (w.perform (.write Frame.clearScreen next)).1 = none := by
    rw [hgone]
    rfl
  rw [play_step heffect, play_over hover, trace_step heffect, trace_over hover]
  exact ⟨hgone, haccepted, rfl⟩

/-- One tick before both screens. -/
theorem Truncated.tick (h : Truncated limit w v) (hsteps : Tick.patience ≤ steps) :
    let cut := w.play Tick.effect steps .clearing
    let whole := v.play Tick.effect steps .clearing
    let calls := Event.calls (w.trace Tick.effect steps .clearing)
    let wholeCalls := Event.calls (v.trace Tick.effect steps .clearing)
    Truncated limit cut.2 whole.2 ∧ calls <+: wholeCalls ∧
    (whole.2.screen.accepted.size ≤ limit → calls = wholeCalls) ∧
    (limit < v.screen.accepted.size → calls = [] ∧ limit < whole.2.screen.accepted.size) ∧
    cut.1 = .finished (if whole.2.screen.accepted.size ≤ limit then w.screen.flush.1
      else .error w.screen.refusal) := by
  cases h with
  | same hlimit hsize =>
      obtain ⟨htruncated, hprefix, hequal, hstate⟩ :=
        play_limited Tick.givesUp hlimit hsize steps .clearing
      obtain ⟨_, _, _, _, _, _, hwhole⟩ := Tick.exists_whole_play hsteps (w := w.unlimited) rfl
      refine ⟨htruncated, hprefix, hequal, fun hexceeds => absurd hsize ?_, ?_⟩
      · exact Nat.not_le_of_gt hexceeds
      · rw [hstate, hwhole]
        split <;> rfl
  | full hlimit hnone hexceeds hbeginning =>
      -- The tick comes to its end at the first text, while the other one goes on.
      have hfull : w.screen.accepted.size = limit := by
        rw [hbeginning, ByteArray.size_extract]
        omega
      obtain ⟨hstate, haccepted, hcalls⟩ := play_full hlimit hfull hsteps
      have htruncated := Truncated.full hlimit hnone hexceeds hbeginning
      obtain ⟨hlonger, hbehind⟩ := htruncated.full_play hexceeds Tick.effect steps
        .clearing
      have hlarge := Nat.not_le_of_gt hlonger
      refine ⟨?_, ?_, fun hfits => absurd hfits hlarge, fun _ => ⟨hcalls, hlonger⟩, ?_⟩
      · exact .full ((limit_play w _ steps _).trans hlimit) hbehind.limit_eq_none hlonger
          (haccepted.trans hbehind.accepted)
      · rw [hcalls]
        exact List.nil_prefix
      · rw [hstate, if_neg hlarge]

theorem ticks_cons (mood : Mood) (moods : List Mood) (w : Rehearsal ω) :
    w.ticks steps (mood :: moods) =
      let tick := (w.inMood mood).play Tick.effect steps .clearing
      let later := tick.2.ticks steps moods
      ⟨tick.1 :: later.ends,
        Event.calls ((w.inMood mood).trace Tick.effect steps .clearing) ++ later.calls,
        later.world⟩ := rfl

/-- Ticks before both screens. -/
theorem Truncated.ticks (h : Truncated limit w v) (hsteps : Tick.patience ≤ steps)
    (moods : List Mood) :
    Truncated limit (w.ticks steps moods).world (v.ticks steps moods).world ∧
    (w.ticks steps moods).calls <+: (v.ticks steps moods).calls ∧
    (limit < v.screen.accepted.size → (w.ticks steps moods).calls = []) := by
  induction moods generalizing w v with
  | nil => exact ⟨h, List.prefix_refl _, fun _ => rfl⟩
  | cons mood moods ih =>
      obtain ⟨htruncated, hprefix, hequal, hfull, _⟩ := (h.inMood mood).tick hsteps
      obtain ⟨hlast, hlater, hnone⟩ := ih htruncated
      rw [ticks_cons, ticks_cons]
      refine ⟨hlast, ?_, ?_⟩
      · let whole := (v.inMood mood).play Tick.effect steps .clearing
        dsimp only
        by_cases hfits : whole.2.screen.accepted.size ≤ limit
        · rw [hequal hfits]
          exact (List.prefix_append_right_inj _).mpr hlater
        · -- The screen is full by now, so nothing is asked later.
          rw [hnone (Nat.lt_of_not_le hfits), List.append_nil]
          exact hprefix.trans (List.prefix_append _ _)
      · intro hexceeds
        obtain ⟨hcalls, hlonger⟩ := hfull hexceeds
        dsimp only
        rw [hcalls, hnone hlonger, List.append_nil]

/-- How a tick in a row has ended. -/
theorem getElem?_ends_ticks (front : List Mood) (mood : Mood) (rest : List Mood)
    (w : Rehearsal ω) :
    (w.ticks steps (front ++ mood :: rest)).ends[front.length]? =
      some (((w.ticks steps front).world.inMood mood).play Tick.effect steps .clearing).1 := by
  induction front generalizing w with
  | nil => rfl
  | cons first front ih => exact ih _

/-- What a tick in a row has left behind. -/
theorem world_ticks_concat (front : List Mood) (mood : Mood) (w : Rehearsal ω) :
    (w.ticks steps (front ++ [mood])).world =
      (((w.ticks steps front).world.inMood mood).play Tick.effect steps .clearing).2 := by
  induction front generalizing w with
  | nil => rfl
  | cons first front ih => exact ih _

/-- A frame before both screens, however it is cut into texts. -/
theorem play_writing_limited (hlimit : w.screen.limit = some limit)
    (hsize : w.screen.accepted.size ≤ limit) {texts : List String} (hsteps : texts.length ≤ steps) :
    ∃ result, (w.play Writing.effect steps (.start texts)).1 = .finished result ∧
      (w.play Writing.effect steps (.start texts)).2.screen.accepted =
        (w.screen.accepted ++ (String.join texts).toUTF8).extract 0 limit ∧
      (result = .ok () ↔ w.screen.accepted.size + (String.join texts).toUTF8.size ≤ limit) := by
  obtain ⟨htruncated, _, _, hstate⟩ :=
    play_limited Writing.givesUp hlimit hsize steps (.start texts)
  obtain ⟨hwhole, haccepted⟩ :=
    Writing.play_unlimited (w := w.unlimited) rfl hsteps
  -- Everything is told by the size of the whole output.
  rw [haccepted, hwhole] at hstate
  have hcut := htruncated.accepted
  rw [haccepted] at hcut
  have hlength : (w.unlimited.screen.accepted ++ (String.join texts).toUTF8).size =
    w.screen.accepted.size + (String.join texts).toUTF8.size := ByteArray.size_append
  rw [hlength] at hstate
  split at hstate
  case isTrue hfits => exact ⟨_, hstate, hcut, iff_of_true rfl hfits⟩
  case isFalse hexceeds => exact ⟨_, hstate, hcut, iff_of_false (by nofun) hexceeds⟩

/-- A screen that fails only truncates. Before a screen with a limit that refuses in any way, and
whichever flushes fail, ticks leave exactly the beginning of what they leave before a screen without
a limit, and ask a beginning of the questions. Each tick comes to its end, without an error exactly
if everything up to its end is within the limit and its own flush succeeds. The same holds of a
frame by itself, however it is cut into the texts that are written. -/
theorem ticks_limited {w : Rehearsal ω} (hlimit : w.screen.limit = some limit)
    (hsize : w.screen.accepted.size ≤ limit) {steps : Nat} (hsteps : Tick.patience ≤ steps)
    (moods : List Mood) :
    ((w.ticks steps moods).world.screen.accepted =
      (w.unlimited.ticks steps moods).world.screen.accepted.extract 0 limit ∧
    (w.ticks steps moods).calls <+: (w.unlimited.ticks steps moods).calls ∧
    ∀ front mood rest, moods = front ++ mood :: rest →
      ∃ result, (w.ticks steps moods).ends[front.length]? = some (.finished result) ∧
        (result = .ok () ↔
          (w.unlimited.ticks steps (front ++ [mood])).world.screen.accepted.size ≤ limit ∧
          mood.flushFailure = none)) ∧
    ∀ (s : Snapshot) (texts : List String), String.join texts = Frame.text s →
      texts.length ≤ steps →
      ∃ result, (w.play Writing.effect steps (.start texts)).1 = .finished result ∧
        (w.play Writing.effect steps (.start texts)).2.screen.accepted =
          (w.screen.accepted ++ (Frame.text s).toUTF8).extract 0 limit ∧
        (result = .ok () ↔ w.screen.accepted.size + (Frame.text s).toUTF8.size ≤ limit) := by
  have hstart := Truncated.same hlimit hsize
  refine ⟨⟨?_, ?_, ?_⟩, ?_⟩
  · exact (hstart.ticks hsteps moods).1.accepted
  · exact (hstart.ticks hsteps moods).2.1
  · rintro front mood rest rfl
    -- The ticks in front lead to two screens that are related, and this tick begins there.
    obtain ⟨htruncated, _, _⟩ := hstart.ticks hsteps front
    obtain ⟨_, _, _, _, htick⟩ := (htruncated.inMood mood).tick hsteps
    rw [getElem?_ends_ticks, world_ticks_concat, htick]
    refine ⟨_, rfl, ?_⟩
    split
    case isTrue hfits => exact (flush_inMood mood _).trans (and_iff_right hfits).symm
    case isFalse hexceeds => exact iff_of_false (by nofun) fun h => hexceeds h.1
  · intro s texts htexts hlength
    rw [← htexts]
    exact play_writing_limited hlimit hsize hlength

/-- A service that has no answer to any question, and a disk with room for ten bytes. -/
def cramped : Rehearsal ScriptedService :=
  .fresh ⟨none, [], [], [], ⟨none, none, none, none, none⟩, ⟨0, 0, 0, 0, 0⟩, #[]⟩
    { ScriptedScreen.unlimited with limit := some 10 }

/-- The disk is full within the first of two ticks, after the screen has been wiped. -/
theorem ticks_limited_cramped :
    let moods : List Mood := [⟨.device "disk full", none⟩, ⟨.nothingAccepted, none⟩]
    (cramped.ticks Tick.patience moods).world.screen.accepted =
      (cramped.unlimited.ticks Tick.patience moods).world.screen.accepted.extract 0 10 ∧
    ∃ result, (cramped.ticks Tick.patience moods).ends[0]? = some (.finished result) ∧
      result ≠ .ok () := by
  intro moods
  obtain ⟨⟨haccepted, -, hends⟩, -⟩ :=
    ticks_limited (rfl : cramped.screen.limit = some 10) (by decide) (Nat.le_refl _) moods
  obtain ⟨result, hend, hok⟩ := hends [] ⟨.device "disk full", none⟩ [⟨.nothingAccepted, none⟩] rfl
  refine ⟨haccepted, result, hend, fun hresult => absurd (hok.mp hresult).1 ?_⟩
  decide +kernel

end Rehearsal
end LoadMonitor
