import ReplyRules.Reply.Payload
import ReplyRules.Proofs.Reply.Base64
import Mathlib.Data.List.Basic

/-!
Response bodies.  Whether a content is encoded is told by words in the media type that it is served with; it
comes to the same as a list of the types that are written as text (`ResponseType.isTextual`).  What is encoded
can be decoded, and gives the content; all other content is taken to be encoded already, and can be decoded
if and only if it is (`Payload.decode_eq_ok_iff`).

The URL of a body is told apart at its first comma, since there is none in a media type; so two bodies with
the same URL are the same (`Payload.dataUrl_inj`).

Main result: all this of every content and every type (`Payload.ofContent_spec`).
-/

namespace ReplyRules

namespace ResponseType

/-- The types whose content is written as text. -/
def isTextual : ResponseType → Bool
  | html | js | css | json | xml | text | svg | other _ => true
  | png | jpg | gif | webp | ico | woff | woff2 | ttf | eot => false

/-- The words in the media types tell which types these are. -/
theorem isTextMime_mime (type : ResponseType) : isTextMime type.mime = type.isTextual := by
  cases type with
  | other name => show isTextMime plainMime = true; decide +kernel
  | _ => decide +kernel

theorem comma_notMem_mime (type : ResponseType) : ',' ∉ type.mime.toList := by
  cases type with
  | other name => show ',' ∉ plainMime.toList; decide +kernel
  | _ => decide +kernel

end ResponseType

namespace Payload

variable {p q : Payload} {content content' : String} {type type' : ResponseType} {bytes : Bytes}

/-! ### Decoding -/

theorem data_ofContent_of_textual (h : type.isTextual = true) :
    (ofContent content type).data = base64Text content := by
  simp only [ofContent, ResponseType.isTextMime_mime, h, if_true]

theorem data_ofContent_of_not_textual (h : type.isTextual = false) :
    (ofContent content type).data = content := by
  simp [ofContent, ResponseType.isTextMime_mime, h]

/-- A body is decoded to the bytes that its text stands for. -/
theorem decode_eq_ok_iff : p.decode = .ok bytes ↔ Base64.IsTextOf p.data bytes :=
  Base64.decode_toBytes_eq_ok_iff

theorem isTextOf_base64Text (content : String) :
    Base64.IsTextOf (base64Text content) (Text.toBytes content) :=
  Base64.isTextOf_ofList (Text.toBytes content)

/-- Contents are known from what they are encoded as. -/
theorem base64Text_inj (h : base64Text content = base64Text content') : content = content' := by
  have hdecode := Base64.decode_toBytes_eq_ok_iff.mpr (isTextOf_base64Text content)
  rw [h, Base64.decode_toBytes_eq_ok_iff.mpr (isTextOf_base64Text content')] at hdecode
  exact Text.toBytes_inj (Except.ok.inj hdecode).symm

/-! ### URLs -/

/-- What stands in front of the first comma of a URL. -/
def urlHead (p : Payload) : String := "data:" ++ p.mime ++ ";base64"

theorem toList_urlHead (p : Payload) :
    p.urlHead.toList = "data:".toList ++ p.mime.toList ++ ";base64".toList := by
  rw [urlHead, String.toList_append, String.toList_append]

theorem toList_dataUrl (p : Payload) : p.dataUrl.toList = p.urlHead.toList ++ ',' :: p.data.toList := by
  have hcomma : ";base64,".toList = ";base64".toList ++ [','] := by decide
  rw [dataUrl, String.toList_append, String.toList_append, String.toList_append, hcomma, toList_urlHead]
  simp only [List.append_assoc, List.singleton_append]

theorem comma_notMem_urlHead (h : ',' ∉ p.mime.toList) : ',' ∉ p.urlHead.toList := by
  rw [toList_urlHead, List.mem_append, List.mem_append, not_or, not_or]
  exact ⟨⟨by decide, h⟩, by decide⟩

/-- The comma behind it is the first one. -/
theorem takeWhile_dataUrl (h : ',' ∉ p.mime.toList) :
    p.dataUrl.toList.takeWhile (· != ',') = p.urlHead.toList := by
  have hhead : ∀ c ∈ p.urlHead.toList, (c != ',') = true := by
    intro c hc
    rw [bne_iff_ne]
    rintro rfl
    exact comma_notMem_urlHead h hc
  rw [toList_dataUrl, List.takeWhile_append_of_pos hhead, List.takeWhile_cons_of_neg (by decide),
    List.append_nil]

theorem comma_notMem_mime (content : String) (type : ResponseType) :
    ',' ∉ (ofContent content type).mime.toList :=
  type.comma_notMem_mime

/-- A body is known from its URL. -/
theorem dataUrl_inj (hp : ',' ∉ p.mime.toList) (hq : ',' ∉ q.mime.toList) :
    p.dataUrl = q.dataUrl ↔ p.mime = q.mime ∧ p.data = q.data := by
  constructor
  · intro h
    have hhead : p.urlHead.toList = q.urlHead.toList := by
      rw [← takeWhile_dataUrl hp, h, takeWhile_dataUrl hq]
    have hlists := congrArg String.toList h
    rw [toList_dataUrl, toList_dataUrl, hhead] at hlists
    have hdata : p.data.toList = q.data.toList := (List.cons.inj (List.append_cancel_left hlists)).2
    rw [toList_urlHead, toList_urlHead] at hhead
    have hmime : p.mime.toList = q.mime.toList :=
      List.append_cancel_left (List.append_cancel_right hhead)
    exact ⟨String.toList_inj.mp hmime, String.toList_inj.mp hdata⟩
  · rintro ⟨hmime, hdata⟩
    rw [dataUrl, hmime, hdata, dataUrl]

/-! ### Bodies for contents -/

/-- Content that is written as text is encoded, in symbols and filling signs alone. -/
theorem isTextOf_data_of_textual (h : type.isTextual = true) (content : String) :
    Base64.IsTextOf (ofContent content type).data (Text.toBytes content) := by
  rw [data_ofContent_of_textual h]
  exact isTextOf_base64Text content

/-- Content that is written as text is decoded to its bytes. -/
theorem decode_of_textual (h : type.isTextual = true) (content : String) :
    (ofContent content type).decode = .ok (Text.toBytes content) :=
  decode_eq_ok_iff.mpr (isTextOf_data_of_textual h content)

/-- Other content is decoded to some bytes if and only if it is the text that stands for them. -/
theorem decode_of_not_textual_iff (h : type.isTextual = false) :
    (ofContent content type).decode = .ok bytes ↔ Base64.IsTextOf content bytes := by
  rw [decode_eq_ok_iff, data_ofContent_of_not_textual h]

/-- Bodies for texts are known from their URLs. -/
theorem dataUrl_of_textual_eq_iff (h : type.isTextual = true) (h' : type'.isTextual = true) :
    (ofContent content type).dataUrl = (ofContent content' type').dataUrl ↔
      type.mime = type'.mime ∧ content = content' := by
  rw [dataUrl_inj (comma_notMem_mime content type) (comma_notMem_mime content' type'),
    data_ofContent_of_textual h, data_ofContent_of_textual h']
  exact and_congr_right fun _ => ⟨base64Text_inj, congrArg base64Text⟩

/-- What stands behind the first comma of a URL is the body. -/
theorem exists_head_dataUrl (content : String) (type : ResponseType) :
    ∃ head, ',' ∉ head ∧
      (ofContent content type).dataUrl.toList = head ++ ',' :: (ofContent content type).data.toList :=
  ⟨_, comma_notMem_urlHead (comma_notMem_mime content type), toList_dataUrl _⟩

/-- **A body is what it was made for.**  Content that is written as text is encoded, in symbols and filling
signs alone, and is decoded to its bytes.  Other content stays as it is, and is decoded to some bytes if and
only if it is the text that stands for them.  Two bodies for texts have the same URL exactly if their media
types and their contents are the same; and what stands behind the first comma of a URL is the body. -/
theorem ofContent_spec :
    (∀ (content : String) (type : ResponseType), type.isTextual = true →
      (ofContent content type).decode = .ok (Text.toBytes content) ∧
      Base64.IsTextOf (ofContent content type).data (Text.toBytes content)) ∧
    (∀ (content : String) (type : ResponseType), type.isTextual = false →
      (ofContent content type).data = content ∧
      ∀ bytes, (ofContent content type).decode = .ok bytes ↔ Base64.IsTextOf content bytes) ∧
    (∀ (content content' : String) (type type' : ResponseType),
      type.isTextual = true → type'.isTextual = true →
      ((ofContent content type).dataUrl = (ofContent content' type').dataUrl ↔
        type.mime = type'.mime ∧ content = content')) ∧
    ∀ (content : String) (type : ResponseType), ∃ head, ',' ∉ head ∧
      (ofContent content type).dataUrl.toList = head ++ ',' :: (ofContent content type).data.toList :=
  ⟨fun content _ h => ⟨decode_of_textual h content, isTextOf_data_of_textual h content⟩,
    fun _ _ h => ⟨data_ofContent_of_not_textual h, fun _ => decode_of_not_textual_iff h⟩,
    fun _ _ _ _ h h' => dataUrl_of_textual_eq_iff h h', exists_head_dataUrl⟩

/-- A text of two bytes as a type without rules of its own, what it is encoded as in an image, and the same
with a bit set behind the last byte. -/
theorem ofContent_spec_accent :
    (ofContent "é" (.other "png")).decode = .ok [0xC3, 0xA9] ∧
    (ofContent "w6k=" .png).decode = .ok [0xC3, 0xA9] ∧
    (ofContent "w6l=" .png).decode ≠ .ok [0xC3, 0xA9] ∧
    (ofContent "é" (.other "png")).dataUrl ≠ (ofContent "e" .text).dataUrl := by
  have hregroups : Base64.Regroups [48, 58, 36] 1 [0xC3, 0xA9] :=
    ⟨by decide, by decide, by decide, by decide⟩
  have htext : Base64.IsTextOf "w6k=" [0xC3, 0xA9] := ⟨_, _, hregroups, by decide⟩
  refine ⟨?_, ?_, ?_, ?_⟩
  · exact (ofContent_spec.1 "é" (.other "png") rfl).1
  · exact ((ofContent_spec.2.1 "w6k=" .png rfl).2 _).mpr htext
  · intro hdecode
    obtain ⟨numbers, fill, h, hletters⟩ := ((ofContent_spec.2.1 "w6l=" .png rfl).2 _).mp hdecode
    -- these bytes have the numbers of the text before
    obtain ⟨rfl, rfl⟩ := h.unique hregroups
    exact absurd hletters (by decide)
  · intro hurl
    have hsame := (ofContent_spec.2.2.1 "é" "e" (.other "png") .text rfl rfl).mp hurl
    exact absurd hsame.2 (by decide)

end Payload

end ReplyRules
