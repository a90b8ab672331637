import Sheltering.Resolver.Storage

/-!
# What comes of asking a node

* `Storage.Hears`: what comes of asking a node for a bundle, if it can be asked.
* `Storage.Serves`: the node hands over the bundle that was asked for.
* `Storage.Classified`: when a download succeeds, and when it fails with which fault.
* `Storage.classified`: every download is classified like that.
-/

namespace Sheltering

/-- The status of an answer that is a success. -/
def IsSuccess (status : UInt16) : Prop := 200 ≤ status ∧ status < 300

instance (status : UInt16) : Decidable (IsSuccess status) := inferInstanceAs (Decidable (_ ∧ _))

/-- The body is not the metadata of the bundle. -/
def WebBody.IsOther (bundle : String) : WebBody → Prop
  | whole bytes => ∀ b, BundleMetadata.ofBytes? bytes = some b → b.bundle ≠ bundle
  | cut => True
  | late => False

namespace WebReply

variable {bundle : String} {timeout : UInt64} {url : Url} {status : UInt16} {body : WebBody}

theorem metadata_of_success (h : IsSuccess status) :
    (answer status body).metadata bundle timeout url = verified bundle timeout body := if_pos h

theorem metadata_of_not_success (h : ¬ IsSuccess status) :
    (answer status body).metadata bundle timeout url = .error (.status status) := if_neg h

/-- A whole body is the metadata of the bundle, or it is invalid. -/
theorem verified_whole (bundle : String) (timeout : UInt64) (bytes : List UInt8) :
    (∃ b, BundleMetadata.ofBytes? bytes = some b ∧ b.bundle = bundle ∧
      verified bundle timeout (.whole bytes) = .ok b) ∨
    ((WebBody.whole bytes).IsOther bundle ∧
      ∃ reason, verified bundle timeout (.whole bytes) = .error (.invalid reason)) := by
  rw [verified]
  cases hb : BundleMetadata.ofBytes? bytes with
  | none => exact .inr ⟨fun b he => (nomatch hb.symm.trans he), _, rfl⟩
  | some b =>
    by_cases hbundle : b.bundle = bundle
    · exact .inl ⟨b, rfl, hbundle, if_pos hbundle⟩
    · refine .inr ⟨fun b' he => ?_, _, if_neg hbundle⟩
      rw [hb] at he
      exact Option.some.inj he ▸ hbundle

end WebReply

namespace Storage

variable (s : Storage) (bundle node : String) (timeout : UInt64)

/-- The directory has a base address for the node, a request can be sent to the address below it,
and this comes of it. -/
def Hears (reply : WebReply) : Prop :=
  ∃ base url, s.directory node = .ok base ∧
    Url.ofText? (metadataAddress base bundle) = some url ∧ url.requested.isSendable = true ∧
    s.web url.requested = reply

/-- The node answers in time and with success, and the body is the metadata of the bundle. -/
def Serves (b : BundleMetadata) : Prop :=
  ∃ status bytes, s.Hears bundle node (.answer status (.whole bytes)) ∧ IsSuccess status ∧
    BundleMetadata.ofBytes? bytes = some b ∧ b.bundle = bundle

/-- When a download succeeds, and when it fails with which fault. -/
structure Classified : Prop where
  served : ∀ b, s.download bundle node timeout = .ok b ↔ s.Serves bundle node b
  /-- The node cannot be asked, or there is no connection to it. -/
  unreachable : (∃ reason, s.download bundle node timeout = .error (.unreachable reason)) ↔
    (∀ reply, ¬ s.Hears bundle node reply) ∨ s.Hears bundle node .lost
  /-- There is no answer in time, or its body does not end in time. -/
  timedOut : ∀ millis, s.download bundle node timeout = .error (.timedOut millis) ↔
    millis = timeout ∧ (s.Hears bundle node .late ∨
      ∃ status, s.Hears bundle node (.answer status .late) ∧ IsSuccess status)
  status : ∀ code, s.download bundle node timeout = .error (.status code) ↔
    ∃ body, s.Hears bundle node (.answer code body) ∧ ¬ IsSuccess code
  /-- The body is not the metadata of a bundle, or it is that of another. -/
  invalid : (∃ reason, s.download bundle node timeout = .error (.invalid reason)) ↔
    ∃ status body, s.Hears bundle node (.answer status body) ∧ IsSuccess status ∧
      body.IsOther bundle

variable {s bundle node timeout} {reply : WebReply}

/-- A node is asked once, so one thing comes of it. -/
theorem Hears.iff (h : s.Hears bundle node reply) {reply' : WebReply} :
    s.Hears bundle node reply' ↔ reply' = reply := by
  constructor
  · rintro ⟨base', url', hbase', hurl', -, rfl⟩
    obtain ⟨base, url, hbase, hurl, -, rfl⟩ := h
    obtain rfl := Except.ok.inj (hbase.symm.trans hbase')
    rw [Option.some.inj (hurl.symm.trans hurl')]
  · rintro rfl
    exact h

/-- Where the base address of a node is known, all depends on what it makes. -/
theorem download_of_base {base : String} (h : s.directory node = .ok base) (timeout : UInt64) :
    s.download bundle node timeout =
      match Url.ofText? (metadataAddress base bundle) with
      | none => .error (.unreachable "builder error")
      | some url =>
        if url.requested.isSendable then
          (s.web url.requested).metadata bundle timeout url.requested
        else
          .error (.unreachable ("builder error for url (" ++ url.requested.text ++ ")")) := by
  have hbind (f : Fault → DownloadFault) (g : String → Except DownloadFault BundleMetadata) :
      (Except.mapError f (.ok base) >>= g) = g base := rfl
  rewrite [download, fetch, h, hbind]
  cases Url.ofText? (metadataAddress base bundle) <;> rfl

theorem Hears.download_eq (h : s.Hears bundle node reply) (timeout : UInt64) :
    ∃ url, s.download bundle node timeout = reply.metadata bundle timeout url := by
  obtain ⟨base, url, hbase, hurl, hsend, rfl⟩ := h
  refine ⟨url.requested, ?_⟩
  rw [download_of_base hbase, hurl]
  dsimp only
  rw [if_pos hsend]

/-- A node that cannot be asked is out of reach. -/
theorem download_of_not_hears (h : ∀ reply, ¬ s.Hears bundle node reply) (timeout : UInt64) :
    ∃ reason, s.download bundle node timeout = .error (.unreachable reason) := by
  cases hbase : s.directory node with
  | error fault =>
    rw [download, fetch, hbase]
    exact ⟨_, rfl⟩
  | ok base =>
    rw [download_of_base hbase]
    cases hurl : Url.ofText? (metadataAddress base bundle) with
    | none => exact ⟨_, rfl⟩
    | some url =>
      have hsend : ¬ url.requested.isSendable = true :=
        fun hsend => h _ ⟨base, url, hbase, hurl, hsend, rfl⟩
      dsimp only
      rw [if_neg hsend]
      exact ⟨_, rfl⟩

/-- Every download is classified by what comes of asking the node. -/
theorem classified : s.Classified bundle node timeout := by
  by_cases hhears : ∃ reply, s.Hears bundle node reply
  · obtain ⟨reply, h⟩ := hhears
    have hiff : ∀ reply', s.Hears bundle node reply' ↔ reply' = reply := fun _ => h.iff
    obtain ⟨url, hd⟩ := h.download_eq timeout
    cases reply with
    | lost | late => constructor <;> grind [WebReply.metadata, Serves]
    | answer status body =>
      by_cases hs : IsSuccess status
      · rw [WebReply.metadata_of_success hs] at hd
        cases body with
        | late | cut => constructor <;> grind [verified, Serves, WebBody.IsOther]
        | whole bytes =>
          obtain ⟨b, hb, hbundle, hv⟩ | ⟨hother, reason, hv⟩ :=
            WebReply.verified_whole bundle timeout bytes
          · rw [hv] at hd
            constructor <;> grind [Serves, WebBody.IsOther]
          · rw [hv] at hd
            constructor <;> grind [Serves, WebBody.IsOther]
      · rw [WebReply.metadata_of_not_success hs] at hd
        constructor <;> grind [Serves]
  · have hnone : ∀ reply, ¬ s.Hears bundle node reply := fun reply h => hhears ⟨reply, h⟩
    obtain ⟨reason, hd⟩ := download_of_not_hears hnone timeout
    constructor <;> grind [Serves]

end Storage

end Sheltering
