import DetectorControl.Autorun.Dialogue
import DetectorControl.Controller.Dispatcher

/-!
# A dispatcher as a partner

A dialogue can be held with a dispatcher of the same process. Requests and replies still pass through
their texts, so that both sides see what they would see over the wire.
-/

namespace DetectorControl.Dispatcher

variable {W : Type}

/-- The reply in a frame's text. -/
def received (text : Bytes) : Reply :=
  match ReplyFrame.read text with
  | .ok f => f.reply
  | .error fault => .error (ProtocolError.json fault).message

def port : Port (Dispatcher W × W) := fun c s =>
  match s.1.handle (Bytes.ofString c.request.text) s.2 with
  | (f, d, w) => (received (Bytes.ofString f.text), (d, w))

end DetectorControl.Dispatcher
