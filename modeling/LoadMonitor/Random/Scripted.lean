import LoadMonitor.Random.Source

/-!
# The scripted source

A given list of words, followed by the upper halves of a linear congruential sequence. It
is meant for rehearsals in which the first words have to be chosen.
-/

namespace LoadMonitor

/-- Words to be played first, and the state of the sequence that follows. -/
structure ScriptedWords where
  words : List UInt32
  state : UInt64
  deriving DecidableEq, Repr

namespace ScriptedWords

def next (s : ScriptedWords) : UInt32 × ScriptedWords :=
  match s.words with
  | w :: rest => (w, { s with words := rest })
  | [] =>
    let state := s.state * 6364136223846793005 + 1442695040888963407
    ((state >>> 32).toUInt32, { s with state })

instance : RandomSource ScriptedWords := ⟨next⟩

end ScriptedWords
end LoadMonitor
