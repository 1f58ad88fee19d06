import Vocoder.Port
import Vocoder.Request
import Vocoder.SessionConfig

/-!
# The session

A session holds one line to one chip and tracks what the chip is set to. It begins with a handshake in
which the chip identifies itself. Rate and gain are changed lazily: a frame at another rate or gain than
the ones believed to be set first sends the request that changes them, then the frame itself.

A session is open exactly while it holds a line. An operation that lets go of a line closes it and hands
it back, so no line is left open behind a session's back. Time, retries and reconnection are the
caller's business.
-/

namespace Vocoder

/-- The two ways through the chip, each with a gain of its own. -/
inductive Direction where
  /-- Audio in, when encoding. -/
  | input
  /-- Audio out, when decoding. -/
  | output
  deriving DecidableEq, Repr

/-- What the chip is believed to be set to. -/
structure Settings where
  rate : Rate := .none
  gainIn : Int := 0
  gainOut : Int := 0
  deriving DecidableEq, Repr, Inhabited

namespace Settings

/-- The gain of a direction. -/
def gain (t : Settings) : Direction → Int
  | .input => t.gainIn
  | .output => t.gainOut

/-- The settings with another gain in one direction. -/
def withGain (t : Settings) : Direction → Int → Settings
  | .input, g => { t with gainIn := g }
  | .output, g => { t with gainOut := g }

/-- The settings with another rate. -/
def withRate (t : Settings) (rate : Rate) : Settings :=
  { t with rate := rate }

end Settings

/-- What a session has done since it was attached. -/
structure Stats where
  framesEncoded : Nat := 0
  framesDecoded : Nat := 0
  rateRequests : Nat := 0
  gainRequests : Nat := 0
  failedExchanges : Nat := 0
  deriving DecidableEq, Repr, Inhabited

/-- The state of a session. -/
structure Session (L : Type) where
  config : SessionConfig := {}
  /-- The line held, if the session is open. -/
  line : Option L := none
  /-- The packet received last, or as much of it as came. -/
  held : List UInt8 := []
  settings : Settings := {}
  /-- The name the chip gave when the session was last opened. -/
  productName : Option String := none
  stats : Stats := {}
  deriving DecidableEq, Repr

namespace Session

variable {L : Type}

/-- Whether the session holds a line. -/
def isOpen (s : Session L) : Bool :=
  s.line.isSome

/-- The packet reader of the session. -/
def reader (s : Session L) : Reader :=
  { lengthField := s.config.lengthField
    timeoutMs := s.config.responseTimeoutMs
    held := s.held }

/-- The line the session holds after an exchange, and what its reader holds. -/
def withLine (s : Session L) (l : L) (r : Reader) : Session L :=
  { s with line := some l, held := r.held }

/-- The session with other counts. -/
def count (s : Session L) (f : Stats → Stats) : Session L :=
  { s with stats := f s.stats }

/-- The session with other settings in its cache. -/
def believe (s : Session L) (t : Settings) : Session L :=
  { s with settings := t }

variable [Port L]

/-! ### Opening and closing -/

/-- Inspect packets until the chip identifies itself, at most so many of them. A packet that says
nothing behind its subtype gives the empty name. -/
def awaitName (r : Reader) : Nat → L → Except Fault String × Reader × L
  | 0, l => (.error .notIdentified, r, l)
  | n + 1, l =>
    match Port.receive r l with
    | (.error f, r', l') => (.error f, r', l')
    | (.ok .productId, r', l') => (.ok (r'.productName?.getD ""), r', l')
    | (.ok _, r', l') => awaitName r' n l'

/-- Ask the chip who it is and wait for the answer. -/
def identify (r : Reader) (attempts : Nat) (l : L) : Except Fault String × Reader × L :=
  match Port.send l productQuery with
  | (.error f, l') => (.error f, r, l')
  | (.ok (), l') => awaitName r attempts l'

/-- Let go of the line, closing it. -/
def close (s : Session L) : Session L × Option L :=
  ({ s with line := none }, s.line.map Port.close)

/-- Start a session on a line. The line held before is let go of first; a line on which the chip does
not identify itself is let go of too. The lines let go of are handed back, closed. On success the
session starts at rate `none`, without gain, and with all counts at zero; on failure it is closed and
otherwise as it was. -/
def attach (s : Session L) (l : L) : Except Fault Unit × Session L × List L :=
  match s.close with
  | (s₁, old) =>
    match identify s₁.reader s₁.config.identifyAttempts l with
    | (.ok name, r, l') =>
      (.ok (),
        { s₁.withLine l' r with settings := {}, productName := some name, stats := {} },
        old.toList)
    | (.error f, r, l') => (.error f, { s₁ with held := r.held }, old.toList ++ [Port.close l'])

/-- Start a session on a line that is being opened: nothing happens to the session but that it is
closed, if the line cannot be opened. -/
def openLine (s : Session L) (opened : Except Fault L) : Except Fault Unit × Session L × List L :=
  match s.close, opened with
  | (s₁, old), .error f => (.error f, s₁, old.toList)
  | (s₁, old), .ok l =>
    match s₁.attach l with
    | (result, s₂, released) => (result, s₂, old.toList ++ released)

/-! ### Exchanges -/

/-- Whether a response is the awaited one. -/
def require (expected got : Response) : Except Fault Unit :=
  if got = expected then .ok ()
  else if got = .unknown then .error .unrecognized
  else .error (.unexpectedResponse expected.name got.name)

/-- Send a request and require a response of one kind. -/
def exchange (s : Session L) (request : List UInt8) (expected : Response) :
    Except Fault Unit × Session L :=
  match s.line with
  | none => (.error .notOpen, s)
  | some l =>
    match Port.send l request with
    | (.error f, l₁) => (.error f, { s with line := some l₁ })
    | (.ok (), l₁) =>
      match Port.receive s.reader l₁ with
      | (.error f, r, l₂) => (.error f, s.withLine l₂ r)
      | (.ok got, r, l₂) => (require expected got, s.withLine l₂ r)

/-! ### Rate and gain -/

/-- Ask the chip for a rate. The rate `none` needs no request. -/
def requestRate (s : Session L) (rate : Rate) : Except Fault Unit × Session L :=
  match rate.request? with
  | none => (.ok (), s)
  | some request =>
    (s.count fun c => { c with rateRequests := c.rateRequests + 1 }).exchange request .rate

/-- Ask the chip for the gains of some settings. -/
def requestGain (s : Session L) (t : Settings) : Except Fault Unit × Session L :=
  (s.count fun c => { c with gainRequests := c.gainRequests + 1 }).exchange
    (gainRequest t.gainIn t.gainOut) .gain

/-- Put the chip into a rate now. -/
def setRate (s : Session L) (rate : Rate) : Except Fault Unit × Session L :=
  if s.isOpen then
    match s.requestRate rate with
    | (.error f, s₁) => (.error f, s₁)
    | (.ok (), s₁) => (.ok (), s₁.believe (s₁.settings.withRate rate))
  else (.error .notOpen, s)

/-- Set both gains now. -/
def setGain (s : Session L) (gainIn gainOut : Int) : Except Fault Unit × Session L :=
  if s.isOpen then
    match s.requestGain { s.settings with gainIn := gainIn, gainOut := gainOut } with
    | (.error f, s₁) => (.error f, s₁)
    | (.ok (), s₁) =>
      (.ok (), s₁.believe { s₁.settings with gainIn := gainIn, gainOut := gainOut })
  else (.error .notOpen, s)

/-- Record the settings `t` after the request for them, as the cache policy has it: the policy
`onSuccess` gives up on a request that failed, the policy `always` goes on as if it had not. -/
def settle (what : String) (t : Settings) :
    Except Fault Unit × Session L → Except Fault Unit × Session L
  | (.ok (), s) => (.ok (), s.believe t)
  | (.error _, s) =>
    match s.config.cachePolicy with
    | .always => (.ok (), s.believe t)
    | .onSuccess => (.error (.reconfigurationFailed what), s)

/-- Bring the chip to a rate if it is not believed to be there. -/
def adoptRate (s : Session L) (rate : Rate) : Except Fault Unit × Session L :=
  if rate = s.settings.rate then (.ok (), s)
  else settle "rate" (s.settings.withRate rate) (s.requestRate rate)

/-- Bring the gain of one direction to a value if it is not believed to be there; the request carries
the other gain as it is. -/
def adoptGain (s : Session L) (d : Direction) (gain : Int) : Except Fault Unit × Session L :=
  if gain = s.settings.gain d then (.ok (), s)
  else settle "gain" (s.settings.withGain d gain) (s.requestGain (s.settings.withGain d gain))

/-! ### Frames -/

/-- What comes before a frame: the session must be open and the caller's voice bytes, `available` of
them, as many as a frame has; then the rate is adopted, and then the gain of the direction. -/
def prepareFrame (s : Session L) (available : Nat) (rate : Rate) (d : Direction) (gain : Int) :
    Except Fault Unit × Session L :=
  if s.isOpen then
    if available < rate.voiceBytes then (.error (.bufferTooSmall rate.voiceBytes available), s)
    else
      match s.adoptRate rate with
      | (.error f, s₁) => (.error f, s₁)
      | (.ok (), s₁) => s₁.adoptGain d gain
  else (.error .notOpen, s)

/-- The first `n` data bytes of the packet held. Field identifier and count must be there even if no
data is wanted. -/
def frameData (r : Reader) (n : Nat) : Except Fault (List UInt8) :=
  if r.payload.length < dataOffset + n then .error (.truncated n r.data.length)
  else .ok (r.data.take n)

/-- Exchange a frame packet for a response that carries `n` bytes of data. -/
def fetch (s : Session L) (request : List UInt8) (expected : Response) (n : Nat) :
    Except Fault (List UInt8) × Session L :=
  match s.exchange request expected with
  | (.error f, s₁) => (.error f, s₁)
  | (.ok (), s₁) => (frameData s₁.reader n, s₁)

/-- Count a frame, or the failure to exchange it. -/
def countFrame (s : Session L) (d : Direction) : Except Fault (List UInt8) → Session L
  | .error _ => s.count fun c => { c with failedExchanges := c.failedExchanges + 1 }
  | .ok _ =>
    match d with
    | .input => s.count fun c => { c with framesEncoded := c.framesEncoded + 1 }
    | .output => s.count fun c => { c with framesDecoded := c.framesDecoded + 1 }

omit [Port L] in
theorem exists_countFrame_eq (s : Session L) (d : Direction) (x : Except Fault (List UInt8)) :
    ∃ f, s.countFrame d x = s.count f := by
  cases x with
  | error f =>
    rw [countFrame]
    exact ⟨_, rfl⟩
  | ok data =>
    cases d with
    | input =>
      rw [countFrame]
      exact ⟨_, rfl⟩
    | output =>
      rw [countFrame]
      exact ⟨_, rfl⟩

/-- Encode one block of audio at a rate. On success the front of `buffer` is replaced by the voice
frame, whose width is the result; on failure the buffer comes back as it was. -/
def encode (s : Session L) (audio : AudioBlock) (buffer : List UInt8) (rate : Rate) (gain : Int) :
    Except Fault Nat × List UInt8 × Session L :=
  match s.prepareFrame buffer.length rate .input gain with
  | (.error f, s₁) => (.error f, buffer, s₁)
  | (.ok (), s₁) =>
    match s₁.fetch (audioPacket audio) .voice rate.voiceBytes with
    | (.error f, s₂) => (.error f, buffer, s₂.countFrame .input (.error f))
    | (.ok frame, s₂) =>
      (.ok rate.voiceBytes, frame ++ buffer.drop rate.voiceBytes, s₂.countFrame .input (.ok frame))

/-- Decode one voice frame at a rate. On success the block is the decoded audio; on failure it comes
back as it was. -/
def decode (s : Session L) (voice : List UInt8) (audio : AudioBlock) (rate : Rate) (gain : Int) :
    Except Fault Unit × AudioBlock × Session L :=
  match s.prepareFrame voice.length rate .output gain with
  | (.error f, s₁) => (.error f, audio, s₁)
  | (.ok (), s₁) =>
    match voicePacket voice rate .host with
    | .error f => (.error f, audio, s₁)
    | .ok request =>
      match s₁.fetch request .audio blockBytes with
      | (.error f, s₂) => (.error f, audio, s₂.countFrame .output (.error f))
      | (.ok block, s₂) => (.ok (), audio.overwrite block, s₂.countFrame .output (.ok block))

end Session

end Vocoder
