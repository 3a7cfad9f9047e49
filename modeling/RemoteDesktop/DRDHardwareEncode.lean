import RemoteDesktop.DRDVaapi

/-! The encoding manager with its VAAPI encoder, over whole runs. `drd_encoding_manager_reset` and
`drd_encoding_manager_dispose` do not touch the encoder, and of the settings only the size has it
made anew. -/
namespace RemoteDesktop.DRD

/-- A frame that VAAPI was given, with the objects that it found and the calls of
`drd_vaapi_encoder_prepare` up to its own. -/
structure VaapiUse where
  frame : Frame
  vaapi : Vaapi
  requests : List (SlotRequest FrameSize H264Params)

/-- What one encode took out of the encoder. `failed` when `avcodec_receive_packet` ended in an
error or the metablock could not be allocated. -/
structure VaapiReceipt where
  packets : List (List UInt8)
  failed : Bool

/-- What an encode tells its caller and the client. -/
structure EncodeAnswer where
  h264 : Bool
  command : Option (SurfaceUpdate × UInt32)
  result : Except EncodeError Unit

/-- `handed` is the bitstream of the encode that is under way, and `bitstreams` are those that a
SurfaceFrameCommand was given. -/
structure HardwareManager where
  manager : EncodingManager := {}
  params : H264Params := {}
  vaapi : Vaapi := {}
  requests : List (SlotRequest FrameSize H264Params) := []
  uses : List VaapiUse := []
  receipts : List VaapiReceipt := []
  handed : Option (List UInt8) := none
  bitstreams : List (List UInt8) := []
  answers : List EncodeAnswer := []
  disposed : Bool := false

/-- Whether the last call of `drd_vaapi_encoder_prepare` succeeded. -/
def HardwareManager.served (s : HardwareManager) : Bool :=
  s.requests.getLast?.any (·.made.isSome)

inductive HardwareEvent
  | prepare (options : EncodingOptions) (params : H264Params)
  | reset
  | forceKeyframe
  | encoderPrepare (context : EncoderContext) (initialised : Bool)
  | encodeSurfaceGfx (settings : GfxSettings) (input : { f : Frame // f.WellFormed })
      (autoSwitch : Bool) (env : EncodeEnv) (forced : VaapiCall → Bool) (answers : VaapiAnswers)
  | encodeCachedFrameGfx (settings : GfxSettings) (autoSwitch : Bool) (env : EncodeEnv)
      (forced : VaapiCall → Bool) (answers : VaapiAnswers)
  | dispose

def Frame.size (f : Frame) : FrameSize := ⟨f.width, f.height⟩

/-- Only the error that is pending ends the encode of the caller. -/
def VaapiEncode.outcome (e : VaapiEncode) : VaapiResult :=
  match e.result with
  | .ok _ => .encoded
  | .error error => if error.code = .pending then .pending else .failed

/-- Whether the AVC420 branch comes to `drd_vaapi_encode_avc420`. -/
def EncodingManager.ReachesVaapi (m : EncodingManager) (plan : EncodePlan) (env : EncodeEnv) : Bool :=
  plan.codec = some .avc420 && (m.encoderPrepare .avc env.encoderInit).isSome && m.h264HwAccel

namespace HardwareManager

variable (s : HardwareManager)

/-- A call of `drd_vaapi_encoder_prepare`, for the size that the manager has then. -/
def vaapiPrepare (size : FrameSize) (fails : VaapiCall → Bool) :
    HardwareManager × Except EncodeError Unit :=
  let (vaapi, prepared) := s.vaapi.prepare size s.params fails
  ({ s with
      vaapi := vaapi
      requests := s.requests ++ [Vaapi.request size s.params prepared] }, prepared)

/-- The attempt at hardware encoding in the choice of the codec. -/
def vaapiForced (settings : GfxSettings) (input : Frame) (autoSwitch : Bool)
    (fails : VaapiCall → Bool) : HardwareManager × Bool :=
  if autoSwitch && s.manager.h264HwAccel && settings.gfxH264 then
    let (s, prepared) := s.vaapiPrepare input.size fails
    (s, prepared.isOk)
  else (s, false)

/-- A call of `drd_vaapi_encode_avc420`, and what its caller does with the outcome. -/
def vaapiEncode (input : Frame) (answers : VaapiAnswers) : HardwareManager × VaapiResult :=
  let encode := s.vaapi.encodeAvc420 input.size s.params answers
  let (s, prepared) := s.vaapiPrepare input.size answers.fails
  ({ s with
      vaapi := encode.settled
      uses := if prepared.isOk then s.uses ++ [⟨input, s.vaapi, s.requests⟩] else s.uses
      receipts := s.receipts ++ [{
        packets := encode.received
        failed := answers.fails .receivePacket || answers.fails .buildMetablock }]
      handed := encode.result.toOption }, encode.outcome)

/-- What `drd_encoding_manager_encode_surface_gfx` asks of VAAPI, and what it is told. -/
def accelerate (settings : GfxSettings) (input : Frame) (autoSwitch : Bool) (env : EncodeEnv)
    (forced : VaapiCall → Bool) (answers : VaapiAnswers) : HardwareManager × EncodeEnv :=
  let (s, prepared) := s.vaapiForced settings input autoSwitch forced
  let (m, plan) := s.manager.beginEncode settings input autoSwitch prepared
  let (s, result) := if m.ReachesVaapi plan env then s.vaapiEncode input answers else (s, .failed)
  (s, { env with vaapiPrepare := prepared, vaapiEncode := result })

/-- The end of an encode, whose command took the bitstream. -/
def record (outcome : GfxEncodeOutcome) : HardwareManager :=
  { s with
    manager := outcome.manager
    handed := none
    bitstreams := if outcome.command.isSome then s.bitstreams ++ s.handed.toList else s.bitstreams
    answers := s.answers ++ [⟨outcome.h264, outcome.command, outcome.result⟩] }

def encodeSurfaceGfx (settings : GfxSettings) (input : Frame) (autoSwitch : Bool) (env : EncodeEnv)
    (forced : VaapiCall → Bool) (answers : VaapiAnswers) : Option HardwareManager :=
  let (s, env) :=
    if !s.manager.ready then (s, env)
    else s.accelerate settings input autoSwitch env forced answers
  (s.manager.encodeSurfaceGfx settings input autoSwitch env).map s.record

/-- The cached frame is encoded with a keyframe forced. -/
def encodeCachedFrameGfx (settings : GfxSettings) (autoSwitch : Bool) (env : EncodeEnv)
    (forced : VaapiCall → Bool) (answers : VaapiAnswers) : Option HardwareManager :=
  let m := s.manager
  if !m.ready ∨ m.gfxPreviousFrame.length = 0 ∨ m.gfxDiffWidth = 0 ∨ m.gfxDiffHeight = 0 ∨
      m.gfxDiffStride = 0 then
    (m.encodeCachedFrameGfx settings autoSwitch env).map s.record
  else
    { s with manager := m.forceKeyframe }.encodeSurfaceGfx settings m.cachedFrame autoSwitch env
      forced answers

/-- The H.264 fields are set where nothing is wrong with the options. -/
def prepare (options : EncodingOptions) (params : H264Params) : HardwareManager :=
  match s.manager.prepare options with
  | (m, .ok ()) => { s with manager := m, params := params }
  | (m, .error _) => { s with manager := m }

def act : HardwareEvent → Option HardwareManager
  | .prepare options params => some (s.prepare options params)
  | .reset => some { s with manager := s.manager.reset }
  | .forceKeyframe => some { s with manager := s.manager.forceKeyframe }
  | .encoderPrepare context initialised =>
    some { s with manager := (s.manager.encoderPrepare context initialised).getD s.manager }
  | .encodeSurfaceGfx settings input autoSwitch env forced answers =>
    s.encodeSurfaceGfx settings input.1 autoSwitch env forced answers
  | .encodeCachedFrameGfx settings autoSwitch env forced answers =>
    s.encodeCachedFrameGfx settings autoSwitch env forced answers
  -- the reset, and then the contexts and buffers, but not the `vaapi_` fields
  | .dispose => some { s with manager := s.manager.reset, disposed := true }

def step (e : HardwareEvent) : Option HardwareManager := if s.disposed then none else s.act e

end HardwareManager

/-- `drd_encoding_manager_init`, which ends with a release. -/
def HardwareManager.fresh : HardwareManager := { vaapi := ({} : Vaapi).release }

def hardwareMachine : EventMachine HardwareManager HardwareEvent where
  init s := s = .fresh
  step := HardwareManager.step

/-! What a call of VAAPI leaves. -/

/-- The bitstream that becomes of a receipt. -/
def VaapiReceipt.bitstream (r : VaapiReceipt) : Option (List UInt8) :=
  if r.failed ∨ r.packets.flatten = [] then none else some r.packets.flatten

namespace Vaapi

variable {v : Vaapi}

/-- An encode hands over all that it took out of the encoder, or nothing. -/
theorem encodeAvc420_bitstream (v : Vaapi) (size : FrameSize) (params : H264Params)
    (answers : VaapiAnswers) :
    (v.encodeAvc420 size params answers).result.toOption =
      VaapiReceipt.bitstream {
        packets := (v.encodeAvc420 size params answers).received
        failed := answers.fails .receivePacket || answers.fails .buildMetablock } := by
  have hreceive (v : Vaapi) : (v.receive answers).result.toOption = VaapiReceipt.bitstream {
      packets := (v.receive answers).received
      failed := answers.fails .receivePacket || answers.fails .buildMetablock } := by
    simp only [receive, receivePackets_eq, List.nil_append, List.length_eq_zero_iff]
    split_ifs with hpacket hreceived hempty hmetablock
    · simp [VaapiReceipt.bitstream, failed, Except.toOption]
    · simp [VaapiReceipt.bitstream, failed, Except.toOption, hreceived]
    · simp only [VaapiReceipt.bitstream, Except.toOption, hempty, or_true, if_true]
    · simp [VaapiReceipt.bitstream, failed, Except.toOption, hmetablock]
    · simp only [VaapiReceipt.bitstream, Except.toOption, hreceived, hmetablock, hempty, Bool.or_self,
        Bool.false_eq_true, or_self, if_false]
  have hupload (v : Vaapi) : (v.upload answers).result.toOption = VaapiReceipt.bitstream {
      packets := (v.upload answers).received
      failed := answers.fails .receivePacket || answers.fails .buildMetablock } := by
    dsimp only [upload]
    split_ifs
    iterate 6
      · simp [VaapiReceipt.bitstream, failed, Except.toOption]
    · exact hreceive _
  rw [encodeAvc420]
  split
  · simp [VaapiReceipt.bitstream, Except.toOption]
  · exact hupload _

/-- A prepare that succeeds leaves an encoder, one that fails leaves none. -/
theorem prepare_isOk {slot : Option (FrameSize × H264Params)} (h : v.Serves slot)
    (size : FrameSize) (params : H264Params) (fails : VaapiCall → Bool) :
    ((request size params (v.prepare size params fails).2).serve slot).isSome =
      (v.prepare size params fails).2.isOk := by
  rcases hresult : (v.prepare size params fails).2 with error | ⟨⟩
  · have hmiss : ¬ (request size params (.error error)).Hits slot := by
      intro hhit
      obtain ⟨⟨_, params'⟩, rfl, rfl⟩ := Option.map_eq_some_iff.mp hhit
      rw [prepare_hit h] at hresult
      cases hresult
    rw [SlotRequest.serve_miss hmiss]
    rfl
  · obtain ⟨params', hslot⟩ := request_ok size params slot
    rw [hslot]
    rfl

end Vaapi

/-! The frame that a refresh encodes. -/

namespace EncodingManager

variable {m : EncodingManager} {f : Frame} {settings : GfxSettings} {autoSwitch : Bool}
  {env : EncodeEnv} {o : GfxEncodeOutcome}

/-- What is cached, be it zeros, is a frame. -/
def CachesFrame (m : EncodingManager) : Prop := m.gfxDiffWidth ≠ 0 → m.cachedFrame.WellFormed

theorem Caches.wellFormed (h : m.Caches f) (hf : f.WellFormed) : m.cachedFrame.WellFormed := by
  obtain ⟨hwidth, hheight, hstride, -, -, hlength⟩ := h
  rw [cachedFrame, hwidth, hheight, hstride]
  exact ⟨hf.width_pos, hf.width_le, hf.height_pos, hf.height_le, hf.stride, hlength, hf.size⟩

theorem encodeSurfaceGfx_cachesFrame (h : m.CachesFrame) (hf : f.WellFormed)
    (ho : m.encodeSurfaceGfx settings f autoSwitch env = some o) : o.manager.CachesFrame := by
  rw [encodeSurfaceGfx] at ho
  split at ho
  · rw [← Option.some.inj ho]
    exact h
  · have hcaches := m.beginEncode_caches settings f autoSwitch env.vaapiPrepare
    have hframe : (m.beginEncode settings f autoSwitch env.vaapiPrepare).2.frame = f := rfl
    generalize m.beginEncode settings f autoSwitch env.vaapiPrepare = begun at ho hcaches hframe
    intro _
    rcases sent_or_unsent ho with ⟨-, hstored⟩ | ⟨-, hunsent⟩
    · rw [hframe] at hstored
      rw [hstored.cachedFrame hcaches hf]
      exact hf
    · have hsame : o.manager.cachedFrame = begun.1.cachedFrame := by
        simp only [cachedFrame, hunsent.diffWidth, hunsent.diffHeight, hunsent.diffStride,
          hunsent.previousFrame]
      rw [hsame]
      exact hcaches.wellFormed hf

theorem forceKeyframe_cachesFrame (h : m.CachesFrame) : m.forceKeyframe.CachesFrame := h

theorem reset_cachesFrame (h : m.CachesFrame) : m.reset.CachesFrame := by
  rw [reset]
  split
  · exact h
  · exact fun hwidth => absurd rfl hwidth

theorem prepare_cachesFrame (h : m.CachesFrame) (options : EncodingOptions) :
    (m.prepare options).1.CachesFrame := by
  rw [prepare]
  split
  · exact h
  · split
    · exact reset_cachesFrame h
    · split
      · exact reset_cachesFrame h
      · exact h

theorem encoderPrepare_cachesFrame (h : m.CachesFrame) (context : EncoderContext)
    (initialised : Bool) : ((m.encoderPrepare context initialised).getD m).CachesFrame := by
  rw [encoderPrepare]
  split
  · exact h
  · split
    · exact h
    · exact h

/-- The AVC420 branch sends what VAAPI encoded. -/
theorem encodeWith_encoded {plan : EncodePlan} (hreach : m.ReachesVaapi plan env = true)
    (prepared : Bool) (ho : m.encodeWith plan
      { env with vaapiPrepare := prepared, vaapiEncode := .encoded } = some o) :
    o.command.isSome = true := by
  simp only [ReachesVaapi, Bool.and_eq_true, decide_eq_true_eq] at hreach
  obtain ⟨⟨hcodec, hcontext⟩, hhwAccel⟩ := hreach
  obtain ⟨m₁, hprepare⟩ := Option.isSome_iff_exists.mp hcontext
  have hsame : m₁.h264HwAccel = m.h264HwAccel := by
    rw [encoderPrepare] at hprepare
    split_ifs at hprepare
    · rw [← Option.some.inj hprepare]
    · rw [← Option.some.inj hprepare]
  simp only [encodeWith, hcodec, encodeAvc420, hprepare, hsame, hhwAccel, if_true,
    Option.some.injEq] at ho
  rw [← ho]
  rfl

end EncodingManager

open SlotRequest

/-- The objects that a frame found are those of an encoder for its size, which is the one that the
requests left. -/
structure VaapiUse.Sound (u : VaapiUse) : Prop where
  wellFormed : u.frame.WellFormed
  ready : ∃ params, slotAfter u.requests = some (u.frame.size, params) ∧
    u.vaapi.Ready u.frame.size params

namespace HardwareManager

variable {s s' : HardwareManager} {size : FrameSize} {fails : VaapiCall → Bool} {f : Frame}
  {answers : VaapiAnswers}

/-- What the calls of VAAPI keep. -/
structure EncoderKept (s : HardwareManager) : Prop where
  serves : s.vaapi.Serves (slotAfter s.requests)
  served : s.served = (slotAfter s.requests).isSome
  uses : ∀ u ∈ s.uses, u.Sound ∧ u.requests <+: s.requests
  bitstreams : s.bitstreams ++ s.handed.toList = s.receipts.filterMap VaapiReceipt.bitstream

theorem EncoderKept.vaapiPrepare (h : s.EncoderKept) (size : FrameSize) (fails : VaapiCall → Bool) :
    (s.vaapiPrepare size fails).1.EncoderKept := by
  have hserves := Vaapi.prepare_spec h.serves size s.params fails
  have hisOk := Vaapi.prepare_isOk h.serves size s.params fails
  rw [← slotAfter_concat] at hserves hisOk
  refine ⟨hserves, ?_, ?_, h.bitstreams⟩
  · refine Eq.trans ?_ hisOk.symm
    simp only [HardwareManager.served, HardwareManager.vaapiPrepare, List.getLast?_concat,
      Option.any_some]
    rcases (s.vaapi.prepare size s.params fails).2 with error | ⟨⟩
    · rfl
    · rfl
  · intro u hu
    obtain ⟨hsound, hearlier⟩ := h.uses u hu
    exact ⟨hsound, hearlier.trans (List.prefix_append ..)⟩

/-- After a prepare that succeeded there is an encoder for its size. -/
theorem EncoderKept.ready (h : s.EncoderKept)
    (hok : (s.vaapi.prepare size s.params fails).2.isOk = true) :
    ∃ params, slotAfter (s.vaapiPrepare size fails).1.requests = some (size, params) ∧
      (s.vaapiPrepare size fails).1.vaapi.Ready size params := by
  have hserves := (h.vaapiPrepare size fails).serves
  have hrequests : (s.vaapiPrepare size fails).1.requests =
      s.requests ++ [Vaapi.request size s.params (s.vaapi.prepare size s.params fails).2] := rfl
  rw [hrequests, slotAfter_concat] at hserves ⊢
  rcases hresult : (s.vaapi.prepare size s.params fails).2 with error | ⟨⟩
  · rw [hresult] at hok
    cases hok
  · rw [hresult] at hserves
    obtain ⟨params, hslot⟩ := Vaapi.request_ok size s.params (slotAfter s.requests)
    rw [hslot] at hserves
    exact ⟨params, hslot, hserves⟩

theorem EncoderKept.vaapiEncode (h : s.EncoderKept) (hhanded : s.handed = none) (hf : f.WellFormed)
    (answers : VaapiAnswers) : (s.vaapiEncode f answers).1.EncoderKept := by
  have hprepared := h.vaapiPrepare f.size answers.fails
  have hserves := Vaapi.encodeAvc420_spec h.serves f.size s.params answers
  rw [← slotAfter_concat] at hserves
  refine ⟨hserves, hprepared.served, ?_, ?_⟩
  · intro u hu
    change u ∈ if (s.vaapi.prepare f.size s.params answers.fails).2.isOk then
      s.uses ++ [⟨f, (s.vaapiPrepare f.size answers.fails).1.vaapi,
        (s.vaapiPrepare f.size answers.fails).1.requests⟩] else s.uses at hu
    split at hu
    · rename_i hok
      rcases List.mem_append.mp hu with hu | hu
      · exact hprepared.uses u hu
      · rw [List.mem_singleton.mp hu]
        exact ⟨⟨hf, h.ready hok⟩, List.prefix_rfl⟩
    · exact hprepared.uses u hu
  · have hbitstream := Vaapi.encodeAvc420_bitstream s.vaapi f.size s.params answers
    have hbefore := h.bitstreams
    rw [hhanded, Option.toList_none, List.append_nil] at hbefore
    show s.bitstreams ++ (s.vaapi.encodeAvc420 f.size s.params answers).result.toOption.toList =
      List.filterMap _ (s.receipts ++ [_])
    rw [List.filterMap_append, ← hbefore, List.filterMap_cons, ← hbitstream]
    rcases (s.vaapi.encodeAvc420 f.size s.params answers).result.toOption with _ | bitstream
    · rfl
    · rfl

theorem EncoderKept.vaapiForced (h : s.EncoderKept) (settings : GfxSettings) (f : Frame)
    (autoSwitch : Bool) (fails : VaapiCall → Bool) :
    (s.vaapiForced settings f autoSwitch fails).1.EncoderKept := by
  rw [HardwareManager.vaapiForced]
  split
  · exact h.vaapiPrepare f.size fails
  · exact h

theorem vaapiForced_frame (s : HardwareManager) (settings : GfxSettings) (f : Frame)
    (autoSwitch : Bool) (fails : VaapiCall → Bool) :
    (s.vaapiForced settings f autoSwitch fails).1.manager = s.manager ∧
      (s.vaapiForced settings f autoSwitch fails).1.handed = s.handed := by
  rw [vaapiForced]
  split
  · exact ⟨rfl, rfl⟩
  · exact ⟨rfl, rfl⟩

theorem EncoderKept.accelerate (h : s.EncoderKept) (hhanded : s.handed = none) (hf : f.WellFormed)
    (settings : GfxSettings) (autoSwitch : Bool) (env : EncodeEnv) (forced : VaapiCall → Bool)
    (answers : VaapiAnswers) :
    (s.accelerate settings f autoSwitch env forced answers).1.EncoderKept := by
  have hforced := h.vaapiForced settings f autoSwitch forced
  have hframe := (s.vaapiForced_frame settings f autoSwitch forced).2
  simp only [HardwareManager.accelerate]
  split
  · exact hforced.vaapiEncode (hframe.trans hhanded) hf answers
  · exact hforced

/-- VAAPI does not touch the manager, which encodes with what VAAPI answered. Where there is a
bitstream, the encode sends it. -/
theorem accelerate_spec (hhanded : s.handed = none) (settings : GfxSettings) (f : Frame)
    (autoSwitch : Bool) (env : EncodeEnv) (forced : VaapiCall → Bool) (answers : VaapiAnswers) :
    (s.accelerate settings f autoSwitch env forced answers).1.manager = s.manager ∧
      ((s.accelerate settings f autoSwitch env forced answers).1.handed = none ∨
        ∀ o, s.manager.ready = true → s.manager.encodeSurfaceGfx settings f autoSwitch
          (s.accelerate settings f autoSwitch env forced answers).2 = some o →
          o.command.isSome = true) := by
  obtain ⟨hmanager, hnone⟩ := s.vaapiForced_frame settings f autoSwitch forced
  rw [HardwareManager.accelerate]
  generalize s.vaapiForced settings f autoSwitch forced = started at hmanager hnone ⊢
  obtain ⟨s₁, prepared⟩ := started
  simp only at hmanager hnone ⊢
  rw [hmanager]
  cases hreach : (s.manager.beginEncode settings f autoSwitch prepared).1.ReachesVaapi
      (s.manager.beginEncode settings f autoSwitch prepared).2 env with
  | false => exact ⟨hmanager, .inl (hnone.trans hhanded)⟩
  | true =>
    refine ⟨hmanager, ?_⟩
    simp only [if_true, vaapiEncode]
    rcases hresult : (s₁.vaapi.encodeAvc420 f.size s₁.params answers).result with error | bitstream
    · exact .inl rfl
    · right
      intro o hready ho
      rw [EncodingManager.encodeSurfaceGfx, hready] at ho
      have hencoded : (s₁.vaapi.encodeAvc420 f.size s₁.params answers).outcome = .encoded := by
        rw [VaapiEncode.outcome, hresult]
      rw [hencoded] at ho
      exact EncodingManager.encodeWith_encoded hreach prepared ho

/-- The invariant of every run. -/
structure Kept (s : HardwareManager) : Prop where
  encoder : s.EncoderKept
  handed : s.handed = none
  cached : s.manager.CachesFrame

/-- What does not concern the encoder. -/
theorem Kept.withManager (h : s.Kept) {m : EncodingManager} (hm : m.CachesFrame)
    (params : H264Params) (disposed : Bool) :
    Kept { s with manager := m, params := params, disposed := disposed } where
  encoder := ⟨h.encoder.serves, h.encoder.served, h.encoder.uses, h.encoder.bitstreams⟩
  handed := h.handed
  cached := hm

/-- The bitstream of an encode goes along with its command. -/
theorem EncoderKept.record (h : s.EncoderKept) {o : GfxEncodeOutcome}
    (hcached : o.manager.CachesFrame) (hsent : s.handed = none ∨ o.command.isSome = true) :
    (s.record o).Kept := by
  refine ⟨⟨h.serves, h.served, h.uses, ?_⟩, rfl, hcached⟩
  show (if o.command.isSome then s.bitstreams ++ s.handed.toList else s.bitstreams) ++ [] =
    s.receipts.filterMap VaapiReceipt.bitstream
  rw [List.append_nil, ← h.bitstreams]
  split
  · rfl
  · rename_i hcommand
    rw [hsent.resolve_right hcommand, Option.toList_none, List.append_nil]

theorem Kept.encodeSurfaceGfx (h : s.Kept) (hf : f.WellFormed) {settings : GfxSettings}
    {autoSwitch : Bool} {env : EncodeEnv} {forced : VaapiCall → Bool} {answers : VaapiAnswers}
    (hs' : s.encodeSurfaceGfx settings f autoSwitch env forced answers = some s') : s'.Kept := by
  have hencoder := h.encoder.accelerate h.handed hf settings autoSwitch env forced answers
  obtain ⟨hmanager, hsent⟩ := accelerate_spec h.handed settings f autoSwitch env forced answers
  rw [HardwareManager.encodeSurfaceGfx] at hs'
  generalize s.accelerate settings f autoSwitch env forced answers = accelerated at *
  by_cases hready : (!s.manager.ready) = true
  · rw [if_pos hready] at hs'
    obtain ⟨o, ho, rfl⟩ := Option.map_eq_some_iff.mp hs'
    have hcached := EncodingManager.encodeSurfaceGfx_cachesFrame h.cached hf ho
    exact h.encoder.record hcached (.inl h.handed)
  · rw [if_neg hready] at hs'
    obtain ⟨o, ho, rfl⟩ := Option.map_eq_some_iff.mp hs'
    rw [hmanager] at ho
    have hcached := EncodingManager.encodeSurfaceGfx_cachesFrame h.cached hf ho
    exact hencoder.record hcached (hsent.imp_right fun hcommand => hcommand o (by simpa using hready) ho)

theorem Kept.encodeCachedFrameGfx (h : s.Kept) {settings : GfxSettings} {autoSwitch : Bool}
    {env : EncodeEnv} {forced : VaapiCall → Bool} {answers : VaapiAnswers}
    (hs' : s.encodeCachedFrameGfx settings autoSwitch env forced answers = some s') : s'.Kept := by
  simp only [HardwareManager.encodeCachedFrameGfx] at hs'
  split at hs'
  · rename_i hguard
    obtain ⟨o, ho, rfl⟩ := Option.map_eq_some_iff.mp hs'
    have hrefused : ¬ s.manager.HasCachedFrame := by
      rintro ⟨hready, hlength, hwidth, hheight, hstride⟩
      simp [hready, hwidth, hheight, hstride, List.length_eq_zero_iff.not.mp hlength] at hguard
    have hmanager := (EncodingManager.encodeCachedFrameGfx_refused hrefused ho).1
    have hcached : o.manager.CachesFrame := by
      rw [hmanager]
      exact h.cached
    exact h.encoder.record hcached (.inl h.handed)
  · rename_i hguard
    have hwidth : s.manager.gfxDiffWidth ≠ 0 := fun hzero => hguard (.inr (.inr (.inl hzero)))
    have hforced : Kept { s with manager := s.manager.forceKeyframe } :=
      h.withManager (EncodingManager.forceKeyframe_cachesFrame h.cached) _ _
    exact hforced.encodeSurfaceGfx (h.cached hwidth) hs'

theorem Kept.prepare (h : s.Kept) (options : EncodingOptions) (params : H264Params) :
    (s.prepare options params).Kept := by
  have hcached := EncodingManager.prepare_cachesFrame h.cached options
  rw [HardwareManager.prepare]
  split
  · rename_i hprepare
    rw [hprepare] at hcached
    exact h.withManager hcached _ _
  · rename_i hprepare
    rw [hprepare] at hcached
    exact h.withManager hcached _ _

theorem Kept.step (h : s.Kept) {e : HardwareEvent} (hs' : s.step e = some s') : s'.Kept := by
  rw [HardwareManager.step] at hs'
  split at hs'
  · cases hs'
  · cases e with
    | prepare options params =>
      rw [← Option.some.inj hs']
      exact h.prepare options params
    | reset =>
      rw [← Option.some.inj hs']
      exact h.withManager (EncodingManager.reset_cachesFrame h.cached) _ _
    | forceKeyframe =>
      rw [← Option.some.inj hs']
      exact h.withManager (EncodingManager.forceKeyframe_cachesFrame h.cached) _ _
    | encoderPrepare context initialised =>
      rw [← Option.some.inj hs']
      exact h.withManager
        (EncodingManager.encoderPrepare_cachesFrame h.cached context initialised) _ _
    | encodeSurfaceGfx settings input autoSwitch env forced answers =>
      exact h.encodeSurfaceGfx input.2 hs'
    | encodeCachedFrameGfx settings autoSwitch env forced answers =>
      exact h.encodeCachedFrameGfx hs'
    | dispose =>
      rw [← Option.some.inj hs']
      exact h.withManager (EncodingManager.reset_cachesFrame h.cached) _ _

theorem kept_inductive : hardwareMachine.Inductive (fun _ _ => True) Kept where
  init := by
    rintro s rfl
    exact ⟨⟨Vaapi.empty_fresh, rfl, by simp [fresh], rfl⟩, rfl, fun hwidth => absurd rfl hwidth⟩
  step := fun _ _ _ h _ hs' => h.step hs'

end HardwareManager

open ResourceCall

variable {s : HardwareManager} {u : VaapiUse}

/-- In every run, whatever FFmpeg answers: nothing is acquired twice or released without being held,
what one frame needs is released with it, and what is kept is all there or all released. The
manager has released everything exactly if its last `drd_vaapi_encoder_prepare` failed, for neither
a reset nor the disposal releases anything. -/
theorem vaapi_resources (hs : hardwareMachine.Reachable s) :
    heldAfter s.vaapi.calls = some (fun r => r.Kept && s.served) ∧
      ((∀ r, s.vaapi.calls.count (.acquire r) = s.vaapi.calls.count (.release r)) ↔
        s.served = false) := by
  have hkept := (HardwareManager.kept_inductive.holds hs).encoder
  have hheld : heldAfter s.vaapi.calls = some (fun r => r.Kept && s.served) := by
    rw [hkept.serves.ledgered, hkept.served, Option.some.injEq]
    funext r
    exact hkept.serves.holds r
  refine ⟨hheld, ?_⟩
  constructor
  · intro hbalanced
    have hdevice := count_acquire hheld .device
    rw [hbalanced] at hdevice
    cases hserved : s.served with
    | false => rfl
    | true => simp [hserved, VaapiResource.Kept] at hdevice
  · intro hserved r
    simpa [hserved] using count_acquire hheld r

/-- The first frame is encoded by VAAPI, and then the manager is disposed. -/
def disposedRun : List HardwareEvent :=
  [.prepare { width := 1, height := 1, h264HwAccel := true } {},
    .encodeSurfaceGfx { gfxH264 := true } (onePixel 1) false {} (fun _ => false)
      { packets := [[1], [2, 3]] },
    .dispose]

theorem vaapi_resources_disposed :
    heldAfter ((hardwareMachine.run .fresh disposedRun).get (by decide)).vaapi.calls =
        some (fun r => r.Kept && true) ∧
      ¬ ∀ r, ((hardwareMachine.run .fresh disposedRun).get (by decide)).vaapi.calls.count (.acquire r) =
        ((hardwareMachine.run .fresh disposedRun).get (by decide)).vaapi.calls.count (.release r) := by
  have hserved : ((hardwareMachine.run .fresh disposedRun).get (by decide)).served = true := by decide
  obtain ⟨hheld, hbalanced⟩ :=
    vaapi_resources (EventMachine.reachable_run_get rfl disposedRun (by decide))
  rw [hserved] at hheld hbalanced
  exact ⟨hheld, fun h => Bool.noConfusion (hbalanced.mp h)⟩

/-- The row that `sws_scale` reads ends within the data of the frame. -/
theorem Frame.WellFormed.row_le {f : Frame} (hf : f.WellFormed) {row : ℕ} (hrow : row < f.height) :
    row * f.stride + 4 * f.width ≤ f.data.length := by
  have hrows : (row + 1) * f.stride ≤ f.height * f.stride := Nat.mul_le_mul_right _ hrow
  calc row * f.stride + 4 * f.width ≤ row * f.stride + f.stride := by
        have hstride := hf.stride
        omega
    _ = (row + 1) * f.stride := by ring
    _ ≤ f.height * f.stride := hrows
    _ = f.data.length := by rw [hf.length, Nat.mul_comm]

/-- In every run, a frame that VAAPI is given finds a pool, a converter, a software frame with its
buffer and an opened encoder, all for its own size. The rows that are converted lie within the
data of the frame: those that are captured are given as `Frame.WellFormed`, which the capture does
not check, and a cached one is the well-formed frame that was stored. -/
theorem vaapi_objects_fit (hs : hardwareMachine.Reachable s) (hu : u ∈ s.uses) :
    (∃ params, u.vaapi.Complete u.frame.size params) ∧
      ∀ row < u.frame.height, row * u.frame.stride + 4 * u.frame.width ≤ u.frame.data.length := by
  obtain ⟨hf, params, -, hready⟩ :=
    ((HardwareManager.kept_inductive.holds hs).encoder.uses u hu).1
  exact ⟨⟨params, hready.toComplete⟩, fun row hrow => hf.row_le hrow⟩

/-- In every run, a frame that VAAPI is given is encoded with the bit rate and the frame rate that
the manager had at the first call of `drd_vaapi_encoder_prepare` in the row of calls for the size of
the frame. What was set since then, be it after a reset, does not come through. -/
theorem vaapi_settings_of_opening (hs : hardwareMachine.Reachable s) (hu : u ∈ s.uses) :
    u.requests <+: s.requests ∧ ∃ before params after,
      u.requests = before ++ ⟨u.frame.size, some params⟩ :: after ∧
      (∀ r ∈ after, r.key = u.frame.size) ∧
      (slotAfter before).map Prod.fst ≠ some u.frame.size ∧
      u.vaapi.encoder = some {
        size := u.frame.size, bitRate := params.bitrate, framerate := params.framerate
        hwFramesCtx := true, opened := true } := by
  obtain ⟨⟨_, params, hslot, hready⟩, hearlier⟩ :=
    (HardwareManager.kept_inductive.holds hs).encoder.uses u hu
  obtain ⟨before, after, hrequests, hafter, hmiss⟩ := slotAfter_eq_some_iff.mp hslot
  exact ⟨hearlier, before, params, after, hrequests, hafter, hmiss, hready.encoder⟩

/-- The manager is reset and prepared with another bit rate between two frames. -/
def reconfiguredRun : List HardwareEvent :=
  [.prepare { width := 1, height := 1, h264HwAccel := true } {},
    .encodeSurfaceGfx { gfxH264 := true } (onePixel 1) false {} (fun _ => false)
      { packets := [[1], [2, 3]] },
    .reset,
    .prepare { width := 1, height := 1, h264HwAccel := true } { bitrate := 1000000 },
    .encodeSurfaceGfx { gfxH264 := true } (onePixel 2) true {} (fun _ => false)
      { packets := [[4]] }]

def reconfigured : HardwareManager :=
  (hardwareMachine.run .fresh reconfiguredRun).get (by decide)

theorem reconfigured_reachable : hardwareMachine.Reachable reconfigured :=
  EventMachine.reachable_run_get rfl reconfiguredRun (by decide)

theorem vaapi_objects_fit_reconfigured :
    ∃ params, (reconfigured.uses.getLast (by decide)).vaapi.Complete ⟨1, 1⟩ params :=
  (vaapi_objects_fit reconfigured_reachable (List.getLast_mem (by decide))).1

/-- The last frame finds the encoder of the first one, and with it the old bit rate. -/
theorem vaapi_settings_of_opening_reconfigured : ∃ params : H264Params,
    (reconfigured.uses.getLast (by decide)).vaapi.encoder = some {
      size := ⟨1, 1⟩, bitRate := params.bitrate, framerate := params.framerate
      hwFramesCtx := true, opened := true } ∧
    params.bitrate = 5000000 ∧ reconfigured.params.bitrate = 1000000 := by
  obtain ⟨-, before, params, after, -, -, -, hencoder⟩ :=
    vaapi_settings_of_opening reconfigured_reachable (List.getLast_mem (by decide))
  have hopened : (reconfigured.uses.getLast (by decide)).vaapi.encoder.map (·.bitRate) =
    some 5000000 := by decide
  rw [hencoder] at hopened
  exact ⟨params, hencoder, Option.some.inj hopened, by decide⟩

/-! The bytes. -/

/-- A receipt gives all its bytes to its bitstream or none of them, so that none are missing in the
end only if none were lost on the way. -/
theorem flatten_bitstreams_iff (rs : List VaapiReceipt) :
    (rs.filterMap VaapiReceipt.bitstream).flatten.length ≤
        (rs.flatMap fun r => r.packets.flatten).length ∧
      ((rs.filterMap VaapiReceipt.bitstream).flatten = rs.flatMap (fun r => r.packets.flatten) ↔
        ∀ r ∈ rs, r.failed = true → r.packets.flatten = []) := by
  induction rs with
  | nil => simp
  | cons r rs ih =>
    obtain ⟨hle, hiff⟩ := ih
    rw [List.flatMap_cons, List.length_append, List.forall_mem_cons]
    by_cases hempty : r.packets.flatten = []
    · have hnone : r.bitstream = none := by simp only [VaapiReceipt.bitstream, hempty, or_true, if_true]
      rw [List.filterMap_cons_none hnone, hempty, List.nil_append, hiff]
      exact ⟨by simpa using hle, by simp⟩
    · cases hfailed : r.failed with
      | false =>
        have hsome : r.bitstream = some r.packets.flatten := by
          simp only [VaapiReceipt.bitstream, hfailed, hempty, Bool.false_eq_true, or_self, if_false]
        rw [List.filterMap_cons_some hsome, List.flatten_cons, List.append_cancel_left_eq, hiff,
          List.length_append]
        exact ⟨by omega, by simp⟩
      | true =>
        have hnone : r.bitstream = none := by
          simp only [VaapiReceipt.bitstream, hfailed, true_or, if_true]
        have hpos := List.length_pos_iff.mpr hempty
        rw [List.filterMap_cons_none hnone]
        refine ⟨by omega, ?_⟩
        -- what is lost cannot be made up for by the others
        refine iff_of_false ?_ fun h => hempty (h.1 rfl)
        intro heq
        have hlength := congrArg List.length heq
        rw [List.length_append] at hlength
        omega

/-- In every run, the bitstreams that the client is sent are the packets of one encode after the
other, in their order and each encode's all together. Nothing that came out of the encoder is missing
exactly if no encode failed after it had received something. -/
theorem vaapi_bitstreams (hs : hardwareMachine.Reachable s) :
    s.bitstreams = s.receipts.filterMap VaapiReceipt.bitstream ∧
      (s.bitstreams.flatten = s.receipts.flatMap (fun r => r.packets.flatten) ↔
        ∀ r ∈ s.receipts, r.failed = true → r.packets.flatten = []) := by
  have hinvariant := HardwareManager.kept_inductive.holds hs
  have hkept := hinvariant.encoder.bitstreams
  rw [hinvariant.handed, Option.toList_none, List.append_nil] at hkept
  refine ⟨hkept, ?_⟩
  rw [hkept]
  exact (flatten_bitstreams_iff s.receipts).2

theorem vaapi_bitstreams_reconfigured :
    reconfigured.bitstreams.flatten = [1, 2, 3, 4] ∧
      reconfigured.bitstreams.flatten =
        reconfigured.receipts.flatMap (fun r => r.packets.flatten) :=
  ⟨by decide, (vaapi_bitstreams reconfigured_reachable).2.mpr (by decide)⟩

end RemoteDesktop.DRD
