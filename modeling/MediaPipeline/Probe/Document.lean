import MediaPipeline.Json.Record
import MediaPipeline.Probe.Metadata

/-!
Media metadata as a document, so that it can be kept and read again. Every field is written, absent
ones as null; when it is read, absent fields may also be left out.
-/

namespace MediaPipeline

open Json (Reader ReadError Field Record)

/-! ### Writing -/

def Json.ofOption {α : Type} (write : α → Json.Value) : Option α → Json.Value
  | none => .null
  | some a => write a

/-- A floating-point number; what is no number or not finite has no numeral. -/
def Json.ofFloat (x : Float) : Json.Value :=
  if x.isNaN || x.isInf then .null else .number (Decimal.text Decimal.document x).toList

def FormatMetadata.toJson (f : FormatMetadata) : Json.Value :=
  .ofMembers [
    ("format_name", .ofOption .ofString f.formatName),
    ("format_long_name", .ofOption .ofString f.formatLongName),
    ("duration", .ofOption .ofFloat f.duration),
    ("size", .ofOption (fun n => .ofNat n.toNat) f.size),
    ("bit_rate", .ofOption (fun n => .ofNat n.toNat) f.bitRate),
    ("nb_streams", .ofNat f.streamCount.toNat),
    ("tags", .ofMembers (f.tags.map fun tag => (tag.1, .ofString tag.2)))]

def StreamMetadata.toJson (s : StreamMetadata) : Json.Value :=
  .ofMembers [
    ("index", .ofNat s.index.toNat),
    ("stream_type", .ofOption (fun t => .ofString t.name) s.streamType),
    ("codec_name", .ofOption .ofString s.codecName),
    ("codec_long_name", .ofOption .ofString s.codecLongName),
    ("width", .ofOption (fun n => .ofNat n.toNat) s.width),
    ("height", .ofOption (fun n => .ofNat n.toNat) s.height),
    ("fps", .ofOption .ofFloat s.frameRate),
    ("pix_fmt", .ofOption .ofString s.pixelFormat),
    ("sample_rate", .ofOption (fun n => .ofNat n.toNat) s.sampleRate),
    ("channels", .ofOption (fun n => .ofNat n.toNat) s.channels),
    ("channel_layout", .ofOption .ofString s.channelLayout),
    ("bit_rate", .ofOption (fun n => .ofNat n.toNat) s.bitRate),
    ("duration", .ofOption .ofFloat s.duration)]

def MediaMetadata.toJson (m : MediaMetadata) : Json.Value :=
  .ofMembers [
    ("format", m.format.toJson),
    ("streams", .ofList (m.streams.map StreamMetadata.toJson))]

def MediaMetadata.toText (m : MediaMetadata) : String :=
  m.toJson.toText

/-! ### Reading -/

def StreamType.read : Reader StreamType :=
  Reader.variant (StreamType.all.map fun t => (t.name, t))

namespace FormatMetadata

def record : Record where
  name := "FormatMetadata"
  fields := [
    .nullable "format_name" Reader.text,
    .nullable "format_long_name" Reader.text,
    .nullable "duration" Reader.float,
    .nullable "size" Reader.unsigned64,
    .nullable "bit_rate" Reader.unsigned64,
    .required "nb_streams" Reader.size,
    .required "tags" (Reader.map Reader.text)]

def read : Reader FormatMetadata := fun v => do
  let values ← record.read v
  pure {
    formatName := ← values.nullable "format_name" Reader.text
    formatLongName := ← values.nullable "format_long_name" Reader.text
    duration := ← values.nullable "duration" Reader.float
    size := ← values.nullable "size" Reader.unsigned64
    bitRate := ← values.nullable "bit_rate" Reader.unsigned64
    streamCount := ← values.required "nb_streams" Reader.size
    tags := ← values.required "tags" (Reader.map Reader.text) }

end FormatMetadata

namespace StreamMetadata

def record : Record where
  name := "StreamMetadata"
  fields := [
    .required "index" Reader.size,
    .nullable "stream_type" StreamType.read,
    .nullable "codec_name" Reader.text,
    .nullable "codec_long_name" Reader.text,
    .nullable "width" Reader.unsigned32,
    .nullable "height" Reader.unsigned32,
    .nullable "fps" Reader.float,
    .nullable "pix_fmt" Reader.text,
    .nullable "sample_rate" Reader.unsigned32,
    .nullable "channels" Reader.unsigned32,
    .nullable "channel_layout" Reader.text,
    .nullable "bit_rate" Reader.unsigned64,
    .nullable "duration" Reader.float]

def read : Reader StreamMetadata := fun v => do
  let values ← record.read v
  pure {
    index := ← values.required "index" Reader.size
    streamType := ← values.nullable "stream_type" StreamType.read
    codecName := ← values.nullable "codec_name" Reader.text
    codecLongName := ← values.nullable "codec_long_name" Reader.text
    width := ← values.nullable "width" Reader.unsigned32
    height := ← values.nullable "height" Reader.unsigned32
    frameRate := ← values.nullable "fps" Reader.float
    pixelFormat := ← values.nullable "pix_fmt" Reader.text
    sampleRate := ← values.nullable "sample_rate" Reader.unsigned32
    channels := ← values.nullable "channels" Reader.unsigned32
    channelLayout := ← values.nullable "channel_layout" Reader.text
    bitRate := ← values.nullable "bit_rate" Reader.unsigned64
    duration := ← values.nullable "duration" Reader.float }

end StreamMetadata

namespace MediaMetadata

def record : Record where
  name := "MediaMetadata"
  fields := [
    .required "format" FormatMetadata.read,
    .required "streams" (Reader.list StreamMetadata.read)]

def read : Reader MediaMetadata := fun v => do
  let values ← record.read v
  pure {
    format := ← values.required "format" FormatMetadata.read
    streams := ← values.required "streams" (Reader.list StreamMetadata.read) }

def ofText (text : String) : Except ReadError MediaMetadata :=
  Json.readText read text

end MediaMetadata

end MediaPipeline
