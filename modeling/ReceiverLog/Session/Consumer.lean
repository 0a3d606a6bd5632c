import ReceiverLog.Dispatch.Task
import ReceiverLog.Session.Reader

namespace ReceiverLog

/-- The consumer of a session's events, and all it has heard. While it is
holding back, the first callback it is called with does not return, and the
tasks behind that one wait. -/
structure Consumer where
  holdsBack : Bool
  /-- It has a callback for sentences as they stand in the stream, and for
  nothing else. -/
  rawOnly : Bool
  heard : List Event

namespace Consumer

def hears (consumer : Consumer) : Event → Bool
  | .raw _ => true
  | _ => !consumer.rawOnly

def noticesTask (consumer : Consumer) (task : Task Delivery) : Bool :=
  task.body.any consumer.hears

def hear (consumer : Consumer) (events : List Event) : Consumer :=
  { consumer with heard := consumer.heard ++ events.filter consumer.hears }

/-- Work through queued tasks as far as the consumer lets them return. What
is left begins with the task it is holding back. -/
def work (consumer : Consumer) (tasks : List (Task Delivery)) :
    Consumer × List (Task Delivery) :=
  if consumer.holdsBack then (consumer, tasks.dropWhile (!consumer.noticesTask ·))
  else (consumer.hear (tasks.flatMap (·.body)), [])

end Consumer

end ReceiverLog
