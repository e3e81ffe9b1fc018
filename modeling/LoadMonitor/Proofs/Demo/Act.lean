import LoadMonitor.Demo.MainThread
import LoadMonitor.Proofs.Run.Event

/-!
# What the main thread does

All steps of the main thread of a demo, told once. Whatever is to be shown of each of its
steps is shown by cases on them.
-/

namespace LoadMonitor.Demo

variable {ρ : Type} [RandomSource ρ] {config : DemoConfig} {patience : Nat}

/-- The steps of the main thread, from position to position. -/
inductive Act (config : DemoConfig) (patience : Nat) : Demo ρ → Event → Demo ρ → Prop where
  | pass {source : ρ} :
      Act config patience (.prechecking source) (.checkedLive (.ok ())) (.greeting source)
  | fail {source : ρ} {error : PrecheckError} :
      Act config patience (.prechecking source) (.checkedLive (.error error)) (.excusing error)
  | excuse {error : PrecheckError} :
      Act config patience (.excusing error) (.logged (precheckFailed error))
        (advised error (.start error.advice))
  | advise {error : PrecheckError} {writing next : Writing} {e : Effect Writing} {event : Event} :
      writing.effect = some e → e.Takes event next →
      Act config patience (.advising error writing) event (advised error next)
  | greet {source : ρ} :
      Act config patience (.greeting source) (.printed "Starting Click-Lite Monitoring Demo...\n")
        (.spacing source)
  | space {source : ρ} :
      Act config patience (.spacing source) (.printed "\n") (.launching source)
  | launch {source : ρ} :
      Act config patience (.launching source) .launched (.driving (.start config.plan source))
  | drive {driver next : LoadDriver ρ} {e : Effect (LoadDriver ρ)} {event : Event} :
      driver.effect config.pacing patience = some e → e.Takes event next →
      Act config patience (.driving driver) event (driven next)
  | lock {outcome : LoadOutcome} :
      Act config patience (.locking outcome) .lockedScreen (.parting outcome (.stopping outcome))
  | stop {outcome words : LoadOutcome} {first : Bool} :
      Act config patience (.parting outcome (.stopping words)) (.stopped first)
        (.parting outcome (.speaking words))
  | speak {outcome words : LoadOutcome} {result : Except WriteError Unit} :
      Act config patience (.parting outcome (.speaking words))
        (.wrote (words.farewell config.webDashboardUrl) result) (.unlocking outcome result)
  | unlock {outcome : LoadOutcome} :
      Act config patience (.unlocking outcome (.ok ())) .unlockedScreen (.joining outcome)
  | leave {outcome : LoadOutcome} {error : WriteError} :
      Act config patience (.unlocking outcome (.error error)) .unlockedScreen
        (.finished (.error error))
  | join {outcome : LoadOutcome} {frames : Nat} :
      Act config patience (.joining outcome) (.joined frames) (.closing outcome frames)
  | close {outcome : LoadOutcome} {frames : Nat} :
      Act config patience (.closing outcome frames) (.logged (ended outcome frames))
        (.finished (.ok outcome.demo))

/-- The main thread takes no other steps. -/
theorem act_of_takes {s t : Demo ρ} {e : Effect (Demo ρ)} {event : Event}
    (heffect : s.effect config patience = some e) (htakes : e.Takes event t) :
    Act config patience s event t := by
  cases s with
  | prechecking source =>
      cases heffect; cases htakes with
      | checkLive answer =>
          cases answer with
          | ok _ => exact .pass
          | error error => exact .fail
  | excusing error => cases heffect; cases htakes; exact .excuse
  | advising error writing =>
      obtain ⟨_, next, hwriting, hnext, rfl⟩ := Thread.takes_map heffect htakes
      exact .advise hwriting hnext
  | greeting source => cases heffect; cases htakes; exact .greet
  | spacing source => cases heffect; cases htakes; exact .space
  | launching source => cases heffect; cases htakes; exact .launch
  | driving driver =>
      obtain ⟨_, next, hdriver, hnext, rfl⟩ := Thread.takes_map heffect htakes
      exact .drive hdriver hnext
  | locking outcome => cases heffect; cases htakes; exact .lock
  | parting outcome farewell =>
      obtain ⟨_, next, hfarewell, hnext, rfl⟩ := Thread.takes_map heffect htakes
      cases farewell with
      | stopping words => cases hfarewell; cases hnext; exact .stop
      | speaking words => cases hfarewell; cases hnext; exact .speak
      | finished result => cases hfarewell
  | unlocking outcome result =>
      cases heffect; cases htakes with
      | unlockScreen =>
          cases result with
          | ok _ => exact .unlock
          | error error => exact .leave
  | joining outcome => cases heffect; cases htakes; exact .join
  | closing outcome frames => cases heffect; cases htakes; exact .close
  | finished result => cases heffect

end LoadMonitor.Demo
