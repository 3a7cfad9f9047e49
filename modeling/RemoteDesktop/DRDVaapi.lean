import RemoteDesktop.DRDCodecContexts
import RemoteDesktop.ResourceLedger
import RemoteDesktop.SlotCache

/-! The VAAPI encoder of `drd_encoding_manager.c`: the objects of FFmpeg behind it, which are kept
from one frame to the next, and those that the encode of a frame needs for itself. -/
namespace RemoteDesktop.DRD

/-- What the encoder acquires. `framesRef` is the reference to the pool of hardware frames that
the codec context has. The last four are of one frame. -/
inductive VaapiResource
  | device | frames | encoder | framesRef | sws | swFrame
  | hwFrame | packet | bitstream | metablock
  deriving DecidableEq, Repr

/-- Kept from one frame to the next. -/
def VaapiResource.Kept : VaapiResource → Bool
  | .device | .frames | .encoder | .framesRef | .sws | .swFrame => true
  | .hwFrame | .packet | .bitstream | .metablock => false

/-- The calls that can fail. The first ten prepare the encoder. -/
inductive VaapiCall
  | findEncoderByName | hwdeviceCtxCreate | hwframeCtxAlloc | hwframeCtxInit | allocContext3
  | bufferRef | open2 | swsGetContext | swFrameAlloc | frameGetBuffer
  | frameMakeWritable | swsScale | hwFrameAlloc | hwframeGetBuffer | hwframeTransferData | sendFrame
  | packetAlloc | receivePacket | buildMetablock
  deriving DecidableEq, Repr

def VaapiCall.message : VaapiCall → String
  | .findEncoderByName => "VAAPI encoder h264_vaapi not available"
  | .hwdeviceCtxCreate => "Failed to create VAAPI device context"
  | .hwframeCtxAlloc => "Failed to allocate VAAPI frames context"
  | .hwframeCtxInit => "Failed to initialize VAAPI frames context"
  | .allocContext3 => "Failed to allocate VAAPI encoder context"
  | .bufferRef => "Failed to reference VAAPI frames context"
  | .open2 => "Failed to open VAAPI encoder"
  | .swsGetContext => "Failed to create swscale context"
  | .swFrameAlloc => "Failed to allocate software frame"
  | .frameGetBuffer => "Failed to allocate software frame buffer"
  | .frameMakeWritable => "Failed to make software frame writable"
  | .swsScale => "sws_scale failed for BGRA to NV12 conversion"
  | .hwFrameAlloc => "Failed to allocate VAAPI frame"
  | .hwframeGetBuffer => "Failed to get VAAPI frame buffer"
  | .hwframeTransferData => "Failed to upload data to VAAPI frame"
  | .sendFrame => "Failed to send VAAPI frame to encoder"
  | .packetAlloc => "Failed to allocate AVPacket"
  | .receivePacket => "Failed to receive VAAPI packet"
  | .buildMetablock => "Failed to allocate h264 metablock"

def VaapiCall.error (call : VaapiCall) : EncodeError := ⟨.failed, call.message⟩

/-- An object for frames of one size. `ready` when it was initialised or has its buffer. -/
structure SizedObject where
  size : FrameSize
  ready : Bool := false
  deriving DecidableEq

/-- The frame rate is also the time base and the size of a group of pictures. -/
structure AVCodecContext where
  size : FrameSize
  bitRate : UInt32
  framerate : UInt32
  hwFramesCtx : Bool := false
  opened : Bool := false
  deriving DecidableEq

/-- The `vaapi_` fields of the manager. `calls` are the calls that acquired or released something,
in their order. -/
structure Vaapi where
  device : Bool := false
  frames : Option SizedObject := none
  encoder : Option AVCodecContext := none
  sws : Option FrameSize := none
  swFrame : Option SizedObject := none
  width : ℕ := 0
  height : ℕ := 0
  calls : List (ResourceCall VaapiResource) := []

/-- What the calls for one frame answer. `packets` come out of the encoder before
`avcodec_receive_packet` answers something else, which is an error where that call fails. -/
structure VaapiAnswers where
  fails : VaapiCall → Bool := fun _ => false
  packets : List (List UInt8) := []

/-- `received` are the packets that came out of the encoder. -/
structure VaapiEncode where
  vaapi : Vaapi
  received : List (List UInt8) := []
  result : Except EncodeError (List UInt8)

/-- The loop over `avcodec_receive_packet`. -/
def receivePackets (bitstream : List UInt8) : List (List UInt8) → List UInt8
  | [] => bitstream
  | packet :: packets => receivePackets (bitstream ++ packet) packets

namespace Vaapi

variable (v : Vaapi)

/-- What the fields say is held. -/
def holds : VaapiResource → Bool
  | .device => v.device
  | .frames => v.frames.isSome
  | .encoder => v.encoder.isSome
  | .framesRef => v.encoder.any (·.hwFramesCtx)
  | .sws => v.sws.isSome
  | .swFrame => v.swFrame.isSome
  | .hwFrame | .packet | .bitstream | .metablock => false

def log (calls : List (ResourceCall VaapiResource)) : Vaapi := { v with calls := v.calls ++ calls }

def clearField : VaapiResource → Vaapi
  | .device => { v with device := false }
  | .frames => { v with frames := none }
  | .encoder => { v with encoder := none }
  | .framesRef => { v with encoder := v.encoder.map ({ · with hwFramesCtx := false }) }
  | .sws => { v with sws := none }
  | .swFrame => { v with swFrame := none }
  | .hwFrame | .packet | .bitstream | .metablock => v

def free (r : VaapiResource) : Vaapi :=
  if v.holds r then (v.clearField r).log [.release r] else v

/-- `drd_vaapi_encoder_release`. -/
def release : Vaapi :=
  let v := v.free .sws
  let v := v.free .swFrame
  let v := v.free .frames
  let v := v.free .device
  -- the codec context takes its reference to the pool along
  let v := (v.free .framesRef).free .encoder
  { v with width := 0, height := 0 }

/-- `drd_vaapi_encoder_prepare` from the device on, with the call that failed. -/
def create (size : FrameSize) (params : H264Params) (fails : VaapiCall → Bool) :
    Vaapi × Option VaapiCall :=
  if fails .hwdeviceCtxCreate then (v, some .hwdeviceCtxCreate)
  else
    let v := { v.log [.acquire .device] with device := true }
    if fails .hwframeCtxAlloc then (v, some .hwframeCtxAlloc)
    else
      let v := { v.log [.acquire .frames] with frames := some { size := size } }
      if fails .hwframeCtxInit then (v, some .hwframeCtxInit)
      else
        let v := { v with frames := some { size := size, ready := true } }
        if fails .allocContext3 then (v, some .allocContext3)
        else
          let encoder : AVCodecContext :=
            { size := size, bitRate := params.bitrate, framerate := params.framerate }
          let v := { v.log [.acquire .encoder] with encoder := some encoder }
          if fails .bufferRef then (v, some .bufferRef)
          else
            let encoder := { encoder with hwFramesCtx := true }
            let v := { v.log [.acquire .framesRef] with encoder := some encoder }
            if fails .open2 then (v, some .open2)
            else
              let v := { v with encoder := some { encoder with opened := true } }
              if fails .swsGetContext then (v, some .swsGetContext)
              else
                let v := { v.log [.acquire .sws] with sws := some size }
                if fails .swFrameAlloc then (v, some .swFrameAlloc)
                else
                  let v := { v.log [.acquire .swFrame] with swFrame := some { size := size } }
                  if fails .frameGetBuffer then (v, some .frameGetBuffer)
                  else ({ v with swFrame := some { size := size, ready := true } }, none)

/-- `drd_vaapi_encoder_prepare`. -/
def prepare (size : FrameSize) (params : H264Params) (fails : VaapiCall → Bool) :
    Vaapi × Except EncodeError Unit :=
  if v.encoder.isSome ∧ v.width = size.width ∧ v.height = size.height then (v, .ok ())
  else
    let v := v.release
    if fails .findEncoderByName then (v, .error VaapiCall.findEncoderByName.error)
    else
      match v.create size params fails with
      | (v, some call) => (v.release, .error call.error)
      | (v, none) => ({ v with width := size.width, height := size.height }, .ok ())

/-- An encode that ends in the failure of a call. -/
def failed (call : VaapiCall) : VaapiEncode := { vaapi := v, result := .error call.error }

/-- `drd_vaapi_encode_avc420` from the packet on. -/
def receive (answers : VaapiAnswers) : VaapiEncode :=
  let v := v.log [.acquire .bitstream]
  if answers.fails .packetAlloc then (v.log [.release .bitstream]).failed .packetAlloc
  else
    let v := v.log [.acquire .packet]
    let bitstream := receivePackets [] answers.packets
    let v := v.log [.release .packet]
    if answers.fails .receivePacket then
      { (v.log [.release .bitstream]).failed .receivePacket with received := answers.packets }
    else if bitstream.length = 0 then
      { vaapi := v.log [.release .bitstream], received := answers.packets
        result := .error ⟨.pending, "no avc420 frame produced by VAAPI"⟩ }
    else if answers.fails .buildMetablock then
      { (v.log [.release .bitstream]).failed .buildMetablock with received := answers.packets }
    else
      { vaapi := v.log [.acquire .metablock], received := answers.packets, result := .ok bitstream }

/-- `drd_vaapi_encode_avc420` from the software frame on. -/
def upload (answers : VaapiAnswers) : VaapiEncode :=
  if answers.fails .frameMakeWritable then v.failed .frameMakeWritable
  else if answers.fails .swsScale then v.failed .swsScale
  else if answers.fails .hwFrameAlloc then v.failed .hwFrameAlloc
  else
    let v := v.log [.acquire .hwFrame]
    if answers.fails .hwframeGetBuffer then
      (v.log [.release .hwFrame]).failed .hwframeGetBuffer
    else if answers.fails .hwframeTransferData then
      (v.log [.release .hwFrame]).failed .hwframeTransferData
    else
      -- whatever `avcodec_send_frame` answers
      let v := v.log [.release .hwFrame]
      if answers.fails .sendFrame then v.failed .sendFrame
      else v.receive answers

/-- `drd_vaapi_encode_avc420`. A success hands its bitstream and the metablock over. -/
def encodeAvc420 (size : FrameSize) (params : H264Params) (answers : VaapiAnswers) : VaapiEncode :=
  match v.prepare size params answers.fails with
  | (v, .error error) => { vaapi := v, result := .error error }
  | (v, .ok ()) => v.upload answers

/-- What the caller does with what a success handed over. -/
def handBack : Vaapi := (v.log [.release .metablock]).log [.release .bitstream]

end Vaapi

/-- The encoder after the caller is done with the outcome. -/
def VaapiEncode.settled (e : VaapiEncode) : Vaapi :=
  match e.result with
  | .ok _ => e.vaapi.handBack
  | .error _ => e.vaapi

theorem receivePackets_eq (bitstream : List UInt8) (packets : List (List UInt8)) :
    receivePackets bitstream packets = bitstream ++ packets.flatten := by
  induction packets generalizing bitstream with
  | nil => simp [receivePackets]
  | cons packet packets ih => simp [receivePackets, ih]

/-! What is held. -/

namespace Vaapi

open ResourceCall

variable {v v' : Vaapi} {r : VaapiResource} {size : FrameSize} {params : H264Params}
  {fails : VaapiCall → Bool} {answers : VaapiAnswers}

/-- The calls so far leave held what the fields say. -/
def Ledgered (v : Vaapi) : Prop := heldAfter v.calls = some v.holds

@[simp] theorem log_holds (calls : List (ResourceCall VaapiResource)) :
    (v.log calls).holds = v.holds := rfl

theorem clearField_holds (hr : r = .encoder → v.holds .framesRef = false) :
    (v.clearField r).holds = Function.update v.holds r false := by
  funext r'
  cases r with
  | encoder =>
    have href := hr rfl
    cases r' <;> first | rfl | exact href.symm
  | framesRef =>
    cases hencoder : v.encoder <;> cases r' <;> simp [clearField, holds, hencoder]
  | _ => cases r' <;> rfl

theorem free_holds (hr : r = .encoder → v.holds .framesRef = false) :
    (v.free r).holds = Function.update v.holds r false := by
  rw [free]
  split
  · exact clearField_holds hr
  · rename_i hfree
    rw [Bool.not_eq_true] at hfree
    rw [← hfree, Function.update_eq_self]

theorem Ledgered.free (h : v.Ledgered) (hr : r = .encoder → v.holds .framesRef = false) :
    (v.free r).Ledgered := by
  have hcleared := clearField_holds hr
  rw [Vaapi.free]
  split
  · rename_i hheld
    rw [Ledgered, log_holds, hcleared]
    have hcalls : ((v.clearField r).log [ResourceCall.release r]).calls =
        v.calls ++ [ResourceCall.release r] := by
      cases r <;> rfl
    rw [hcalls]
    exact heldAfter_release h hheld
  · exact h

/-- How far a release has come: `gone` is what is not held any more. -/
structure Released (v v' : Vaapi) (gone : List VaapiResource) : Prop where
  ledgered : v'.Ledgered
  holds : ∀ r, v'.holds r = (v.holds r && decide (r ∉ gone))

theorem Released.free {gone : List VaapiResource} (h : v.Released v' gone) (r : VaapiResource)
    (hr : r = .encoder → .framesRef ∈ gone) : v.Released (v'.free r) (r :: gone) := by
  have href : r = .encoder → v'.holds .framesRef = false := by
    intro hencoder
    simp [h.holds, hr hencoder]
  refine ⟨h.ledgered.free href, ?_⟩
  intro q
  rw [free_holds href]
  by_cases hq : q = r
  · simp [hq]
  · rw [Function.update_of_ne hq, h.holds]
    simp [hq]

/-- Nothing is held, and no size is noted. -/
structure Empty (v : Vaapi) : Prop where
  ledgered : v.Ledgered
  holds : ∀ r, v.holds r = false
  size : v.width = 0 ∧ v.height = 0

theorem release_empty (h : v.Ledgered) : v.release.Empty := by
  have hstart : v.Released v [] := ⟨h, by simp⟩
  have hsws := hstart.free .sws (by decide)
  have hswFrame := hsws.free .swFrame (by decide)
  have hframes := hswFrame.free .frames (by decide)
  have hdevice := hframes.free .device (by decide)
  have href := hdevice.free .framesRef (by decide)
  have hencoder := href.free .encoder (fun _ => List.mem_cons_self)
  refine ⟨hencoder.ledgered, ?_, rfl, rfl⟩
  intro r
  refine (hencoder.holds r).trans ?_
  cases r <;> simp [Vaapi.holds]

theorem empty_fresh : ({} : Vaapi).release.Empty := by
  apply release_empty
  rw [Ledgered, heldAfter_nil, Option.some.injEq]
  funext r
  cases r <;> rfl

/-- A prepared encoder: every object is there, initialised, and for frames of the size. -/
structure Complete (v : Vaapi) (size : FrameSize) (params : H264Params) : Prop where
  device : v.device = true
  frames : v.frames = some { size := size, ready := true }
  encoder : v.encoder = some {
    size := size, bitRate := params.bitrate, framerate := params.framerate
    hwFramesCtx := true, opened := true }
  sws : v.sws = some size
  swFrame : v.swFrame = some { size := size, ready := true }

theorem Complete.holds (h : v.Complete size params) (r : VaapiResource) : v.holds r = r.Kept := by
  cases r with
  | device => exact h.device
  | frames => rw [Vaapi.holds, h.frames]; rfl
  | encoder => rw [Vaapi.holds, h.encoder]; rfl
  | framesRef => rw [Vaapi.holds, h.encoder]; rfl
  | sws => rw [Vaapi.holds, h.sws]; rfl
  | swFrame => rw [Vaapi.holds, h.swFrame]; rfl
  | hwFrame | packet | bitstream | metablock => rfl

/-- How far `create` has come: `held` is what is held. -/
structure Created (v : Vaapi) (held : List VaapiResource) : Prop where
  ledgered : v.Ledgered
  holds : ∀ r, v.holds r = decide (r ∈ held)

/-- A call that fills the field of a resource. -/
theorem Created.acquire {held : List VaapiResource} (h : v.Created held) (r : VaapiResource)
    (hr : r ∉ held) (hcalls : v'.calls = v.calls ++ [.acquire r])
    (hholds : ∀ q, v'.holds q = Function.update v.holds r true q) : v'.Created (r :: held) := by
  constructor
  · rw [Ledgered, hcalls, funext hholds]
    exact heldAfter_acquire h.ledgered (by simpa [hr] using h.holds r)
  · intro q
    rw [hholds]
    by_cases hq : q = r
    · simp [hq]
    · rw [Function.update_of_ne hq, h.holds]
      simp [hq]

/-- A change to an object that is there. -/
theorem Created.of_holds {held : List VaapiResource} (h : v.Created held)
    (hcalls : v'.calls = v.calls) (hholds : ∀ q, v'.holds q = v.holds q) : v'.Created held := by
  constructor
  · rw [Ledgered, hcalls, funext hholds]
    exact h.ledgered
  · intro q
    rw [hholds, h.holds]

theorem Empty.eq (h : v.Empty) : v = { calls := v.calls } := by
  obtain ⟨_, hholds, hwidth, hheight⟩ := h
  have hdevice := hholds .device
  have hframes := hholds .frames
  have hencoder := hholds .encoder
  have hsws := hholds .sws
  have hswFrame := hholds .swFrame
  cases v
  simp_all [Vaapi.holds]

theorem Empty.created (h : v.Empty) : v.Created [] := ⟨h.ledgered, by simpa using h.holds⟩

/-- Where no call fails all is there. Whatever fails, the calls keep to the ledger. -/
theorem create_spec (h : v.Empty) (size : FrameSize) (params : H264Params)
    (fails : VaapiCall → Bool) :
    (v.create size params fails).1.Ledgered ∧ ((v.create size params fails).2 = none →
      (v.create size params fails).1.Complete size params) := by
  have hstart := h.created
  rw [h.eq] at hstart ⊢
  generalize v.calls = calls at hstart ⊢
  let device : Vaapi := { calls := calls ++ [.acquire .device], device := true }
  have hdevice : device.Created _ := hstart.acquire .device (by decide) rfl
    fun q => by cases q <;> rfl
  let frames : Vaapi :=
    { device.log [.acquire .frames] with frames := some { size := size } }
  have hframes : frames.Created _ := hdevice.acquire .frames (by decide) rfl
    fun q => by cases q <;> rfl
  let pool : Vaapi := { frames with frames := some { size := size, ready := true } }
  have hpool : pool.Created _ := hframes.of_holds rfl
    fun q => by cases q <;> rfl
  let context : AVCodecContext :=
    { size := size, bitRate := params.bitrate, framerate := params.framerate }
  let encoder : Vaapi := { pool.log [.acquire .encoder] with encoder := some context }
  have hencoder : encoder.Created _ := hpool.acquire .encoder (by decide) rfl
    fun q => by cases q <;> rfl
  let ref : Vaapi := { encoder.log [.acquire .framesRef] with
    encoder := some { context with hwFramesCtx := true } }
  have href : ref.Created _ := hencoder.acquire .framesRef (by decide) rfl
    fun q => by cases q <;> rfl
  let opened : Vaapi :=
    { ref with encoder := some { context with hwFramesCtx := true, opened := true } }
  have hopened : opened.Created _ := href.of_holds rfl
    fun q => by cases q <;> rfl
  let sws : Vaapi := { opened.log [.acquire .sws] with sws := some size }
  have hsws : sws.Created _ := hopened.acquire .sws (by decide) rfl
    fun q => by cases q <;> rfl
  let swFrame : Vaapi :=
    { sws.log [.acquire .swFrame] with swFrame := some { size := size } }
  have hswFrame : swFrame.Created _ := hsws.acquire .swFrame (by decide) rfl
    fun q => by cases q <;> rfl
  unfold create
  split_ifs
  · exact ⟨hstart.ledgered, by simp⟩
  · exact ⟨hdevice.ledgered, by simp⟩
  · exact ⟨hframes.ledgered, by simp⟩
  · exact ⟨hpool.ledgered, by simp⟩
  · exact ⟨hencoder.ledgered, by simp⟩
  · exact ⟨href.ledgered, by simp⟩
  · exact ⟨hopened.ledgered, by simp⟩
  · exact ⟨hsws.ledgered, by simp⟩
  · exact ⟨hswFrame.ledgered, by simp⟩
  · refine ⟨(hswFrame.of_holds rfl ?_).ledgered, fun _ => ⟨rfl, rfl, rfl, rfl, rfl⟩⟩
    intro q
    cases q <;> rfl

/-- The encoder as a cache with one place: nothing is there, or all for one size. -/
structure Ready (v : Vaapi) (size : FrameSize) (params : H264Params) : Prop
    extends v.Complete size params where
  ledgered : v.Ledgered
  width : v.width = size.width
  height : v.height = size.height

def Serves (v : Vaapi) : Option (FrameSize × H264Params) → Prop
  | none => v.Empty
  | some (size, params) => v.Ready size params

theorem Serves.ledgered {slot : Option (FrameSize × H264Params)} (h : v.Serves slot) :
    v.Ledgered := by
  cases slot with
  | none => exact Empty.ledgered h
  | some _ => exact Ready.ledgered h

/-- What is held belongs to a prepared encoder. -/
theorem Serves.holds {slot : Option (FrameSize × H264Params)} (h : v.Serves slot)
    (r : VaapiResource) : v.holds r = (r.Kept && slot.isSome) := by
  cases slot with
  | none => rw [Empty.holds h r, Option.isSome_none, Bool.and_false]
  | some _ => rw [(Ready.toComplete h).holds r, Option.isSome_some, Bool.and_true]

/-- The request that a call of `drd_vaapi_encoder_prepare` makes of the cache. -/
def request (size : FrameSize) (params : H264Params) (result : Except EncodeError Unit) :
    SlotRequest FrameSize H264Params where
  key := size
  made := match result with
    | .ok () => some params
    | .error _ => none

/-- An encoder for the size is used as it is. -/
theorem prepare_hit (h : v.Ready size params) (params' : H264Params) (fails : VaapiCall → Bool) :
    v.prepare size params' fails = (v, .ok ()) := by
  rw [prepare, if_pos]
  exact ⟨by rw [h.encoder]; rfl, h.width, h.height⟩

/-- Without one the call starts from a release. -/
theorem prepare_miss {slot : Option (FrameSize × H264Params)} (h : v.Serves slot)
    (hmiss : slot.map Prod.fst ≠ some size) (params : H264Params) (fails : VaapiCall → Bool) :
    v.prepare size params fails =
      if fails .findEncoderByName then (v.release, .error VaapiCall.findEncoderByName.error)
      else
        match v.release.create size params fails with
        | (v, some call) => (v.release, .error call.error)
        | (v, none) => ({ v with width := size.width, height := size.height }, .ok ()) := by
  rw [prepare, if_neg]
  rintro ⟨hencoder, hwidth, hheight⟩
  cases slot with
  | none =>
    have hnone : v.encoder.isSome = false := Empty.holds h .encoder
    rw [hnone] at hencoder
    cases hencoder
  | some entry =>
    obtain ⟨hwidth', hheight'⟩ := And.intro (Ready.width h) (Ready.height h)
    apply hmiss
    rw [Option.map_some, Option.some.injEq]
    calc entry.1 = ⟨entry.1.width, entry.1.height⟩ := rfl
      _ = ⟨size.width, size.height⟩ := by rw [← hwidth', ← hheight', hwidth, hheight]

/-- A request that is served has its key in the place. -/
theorem request_ok (size : FrameSize) (params : H264Params)
    (slot : Option (FrameSize × H264Params)) :
    ∃ params', (request size params (.ok ())).serve slot = some (size, params') := by
  by_cases hhit : (request size params (.ok ())).Hits slot
  · obtain ⟨⟨_, params'⟩, rfl, rfl⟩ := Option.map_eq_some_iff.mp hhit
    exact ⟨params', SlotRequest.serve_hit hhit⟩
  · exact ⟨params, SlotRequest.serve_miss hhit⟩

/-- A call of `drd_vaapi_encoder_prepare` serves a request. -/
theorem prepare_spec {slot : Option (FrameSize × H264Params)} (h : v.Serves slot)
    (size : FrameSize) (params : H264Params) (fails : VaapiCall → Bool) :
    (v.prepare size params fails).1.Serves
      ((request size params (v.prepare size params fails).2).serve slot) := by
  by_cases hhit : (request size params (v.prepare size params fails).2).Hits slot
  · rw [SlotRequest.serve_hit hhit]
    obtain ⟨⟨_, params'⟩, rfl, rfl⟩ := Option.map_eq_some_iff.mp hhit
    rw [prepare_hit h]
    exact h
  · have hempty := release_empty h.ledgered
    have hmiss : slot.map Prod.fst ≠ some size := hhit
    rw [SlotRequest.serve_miss hhit, prepare_miss h hmiss]
    split
    · exact hempty
    · obtain ⟨hledgered, hcomplete⟩ := create_spec hempty size params fails
      split
      · rename_i v' call hcreate
        rw [hcreate] at hledgered
        exact release_empty hledgered
      · rename_i v' hcreate
        rw [hcreate] at hledgered hcomplete
        obtain ⟨hdevice, hframes, hencoder, hsws, hswFrame⟩ := hcomplete rfl
        exact ⟨⟨hdevice, hframes, hencoder, hsws, hswFrame⟩, hledgered, rfl, rfl⟩

/-- Calls that leave held what was held. -/
theorem Ready.of_calls (h : v.Ready size params) {calls : List (ResourceCall VaapiResource)}
    (hcalls : heldAfter calls = some v.holds) : Ready { v with calls := calls } size params :=
  ⟨⟨h.device, h.frames, h.encoder, h.sws, h.swFrame⟩, hcalls, h.width, h.height⟩

/-- The bitstream and the packet are released on every path, or handed over. -/
theorem receive_ready (h : v.Ready size params) (answers : VaapiAnswers) :
    (v.receive answers).settled.Ready size params := by
  have hfree : v.holds .bitstream = false := rfl
  have hbitstream := heldAfter_acquire h.ledgered hfree
  have hpacket := heldAfter_bracket hbitstream
    (show Function.update v.holds .bitstream true .packet = false from rfl)
  have hreleased := heldAfter_release_acquired hpacket hfree
  dsimp only [receive]
  split_ifs
  · exact h.of_calls (heldAfter_bracket h.ledgered hfree)
  · exact h.of_calls hreleased
  · exact h.of_calls hreleased
  · exact h.of_calls hreleased
  · simp only [VaapiEncode.settled, handBack, log]
    have hmetablock := heldAfter_bracket hpacket
      (show Function.update v.holds .bitstream true .metablock = false from rfl)
    exact h.of_calls (heldAfter_release_acquired hmetablock hfree)

theorem upload_ready (h : v.Ready size params) (answers : VaapiAnswers) :
    (v.upload answers).settled.Ready size params := by
  have hframe := h.of_calls (heldAfter_bracket h.ledgered (show v.holds .hwFrame = false from rfl))
  unfold upload
  split_ifs
  · exact h
  · exact h
  · exact h
  · exact hframe
  · exact hframe
  · exact hframe
  · exact receive_ready hframe answers

/-- An encode leaves the cache as its call of `drd_vaapi_encoder_prepare` does. -/
theorem encodeAvc420_spec {slot : Option (FrameSize × H264Params)} (h : v.Serves slot)
    (size : FrameSize) (params : H264Params) (answers : VaapiAnswers) :
    (v.encodeAvc420 size params answers).settled.Serves
      ((request size params (v.prepare size params answers.fails).2).serve slot) := by
  have hserves := prepare_spec h size params answers.fails
  rw [encodeAvc420]
  rcases hprepare : v.prepare size params answers.fails with ⟨v', error | ⟨⟩⟩
  · rw [hprepare] at hserves
    exact hserves
  · rw [hprepare] at hserves
    obtain ⟨params', hslot⟩ := request_ok size params slot
    rw [hslot] at hserves ⊢
    exact upload_ready hserves answers

end Vaapi
end RemoteDesktop.DRD
