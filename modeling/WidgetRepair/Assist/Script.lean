import WidgetRepair.Assist.Model
import WidgetRepair.Runner.Rehearsal

/-! A way to a provider that goes nowhere: prepared replies are played back, and time passes
without anybody waiting. -/

namespace WidgetRepair

structure ReplyScript where
  /-- The replies to come; the last one repeats. -/
  replies : List LanguageModel.Reply := []
  sent : List LanguageModel.Request := []
  /-- The seconds that were waited. -/
  waited : Nat := 0

namespace ReplyScript

/-- What comes back when no reply was prepared. -/
def silence : LanguageModel.Reply := .answered 200 ""

/-- The transport of a script that is part of what is outside. -/
def transport {τ : Type} (view : τ → ReplyScript) (change : ReplyScript → τ → τ) :
    LanguageModel.Transport τ where
  send request := do
    let script := view (← get)
    let (reply, rest) := nextOf script.replies
    modify (change { script with replies := rest, sent := script.sent ++ [request] })
    return reply.getD silence
  wait seconds := do
    let script := view (← get)
    modify (change { script with waited := script.waited + seconds })

end ReplyScript

end WidgetRepair
