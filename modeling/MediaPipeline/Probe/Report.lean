import MediaPipeline.Json.Record
import MediaPipeline.Probe.Metadata

/-!
The report a prober prints about a media file, and what it says. Numbers arrive as texts in it; a
text that denotes no number of the wanted type leaves its field absent and spoils nothing else.
-/

namespace MediaPipeline

open Json (Reader ReadError Field Record)

/-- What a report says of the container, as it stands there. -/
structure ReportedFormat where
  formatName : Option String
  formatLongName : Option String
  duration : Option String
  size : Option String
  bitRate : Option String
  streamCount : Option UInt64
  tags : Option (List (String × String))
  deriving DecidableEq

structure ReportedStream where
  index : UInt64
  codecType : Option String
  codecName : Option String
  codecLongName : Option String
  width : Option UInt32
  height : Option UInt32
  frameRate : Option String
  pixelFormat : Option String
  sampleRate : Option String
  channels : Option UInt32
  channelLayout : Option String
  bitRate : Option String
  duration : Option String
  deriving DecidableEq

structure ProbeReport where
  format : ReportedFormat
  streams : List ReportedStream
  deriving DecidableEq

/-! ### Reading a report -/

namespace ReportedFormat

def record : Record where
  name := "FfprobeFormat"
  fields := [
    .nullable "format_name" Reader.text,
    .nullable "format_long_name" Reader.text,
    .nullable "duration" Reader.text,
    .nullable "size" Reader.text,
    .nullable "bit_rate" Reader.text,
    .nullable "nb_streams" Reader.size,
    .nullable "tags" (Reader.map Reader.text)]

def read : Reader ReportedFormat := fun v => do
  let values ← record.read v
  pure {
    formatName := ← values.nullable "format_name" Reader.text
    formatLongName := ← values.nullable "format_long_name" Reader.text
    duration := ← values.nullable "duration" Reader.text
    size := ← values.nullable "size" Reader.text
    bitRate := ← values.nullable "bit_rate" Reader.text
    streamCount := ← values.nullable "nb_streams" Reader.size
    tags := ← values.nullable "tags" (Reader.map Reader.text) }

end ReportedFormat

namespace ReportedStream

def record : Record where
  name := "FfprobeStream"
  fields := [
    .required "index" Reader.size,
    .nullable "codec_type" Reader.text,
    .nullable "codec_name" Reader.text,
    .nullable "codec_long_name" Reader.text,
    .nullable "width" Reader.unsigned32,
    .nullable "height" Reader.unsigned32,
    .nullable "r_frame_rate" Reader.text,
    .nullable "pix_fmt" Reader.text,
    .nullable "sample_rate" Reader.text,
    .nullable "channels" Reader.unsigned32,
    .nullable "channel_layout" Reader.text,
    .nullable "bit_rate" Reader.text,
    .nullable "duration" Reader.text]

def read : Reader ReportedStream := fun v => do
  let values ← record.read v
  pure {
    index := ← values.required "index" Reader.size
    codecType := ← values.nullable "codec_type" Reader.text
    codecName := ← values.nullable "codec_name" Reader.text
    codecLongName := ← values.nullable "codec_long_name" Reader.text
    width := ← values.nullable "width" Reader.unsigned32
    height := ← values.nullable "height" Reader.unsigned32
    frameRate := ← values.nullable "r_frame_rate" Reader.text
    pixelFormat := ← values.nullable "pix_fmt" Reader.text
    sampleRate := ← values.nullable "sample_rate" Reader.text
    channels := ← values.nullable "channels" Reader.unsigned32
    channelLayout := ← values.nullable "channel_layout" Reader.text
    bitRate := ← values.nullable "bit_rate" Reader.text
    duration := ← values.nullable "duration" Reader.text }

end ReportedStream

namespace ProbeReport

def record : Record where
  name := "FfprobeOutput"
  fields := [
    .required "format" ReportedFormat.read,
    .standard "streams" (Reader.list ReportedStream.read)]

def read : Reader ProbeReport := fun v => do
  let values ← record.read v
  pure {
    format := ← values.required "format" ReportedFormat.read
    streams := ← values.standard "streams" (Reader.list ReportedStream.read) [] }

end ProbeReport

/-! ### What a report says -/

def seconds? (text : String) : Option Float :=
  Decimal.float? text.toList

def count64? (text : String) : Option UInt64 :=
  UInt64.ofNat <$> Decimal.unsigned? UInt64.size text.toList

def count32? (text : String) : Option UInt32 :=
  UInt32.ofNat <$> Decimal.unsigned? UInt32.size text.toList

/-- The rate a text denotes: a number, or a quotient of two where the second is not zero. -/
def frameRate? (text : String) : Option Float :=
  let numerator := text.toList.takeWhile (· ≠ '/')
  match text.toList.dropWhile (· ≠ '/') with
  | [] => Decimal.float? numerator
  | _ :: denominator => do
    let n ← Decimal.float? numerator
    let d ← Decimal.float? denominator
    if d == 0 then none else some (n / d)

def ReportedFormat.metadata (f : ReportedFormat) : FormatMetadata where
  formatName := f.formatName
  formatLongName := f.formatLongName
  duration := f.duration.bind seconds?
  size := f.size.bind count64?
  bitRate := f.bitRate.bind count64?
  streamCount := f.streamCount.getD 0
  tags := f.tags.getD []

def ReportedStream.metadata (s : ReportedStream) : StreamMetadata where
  index := s.index
  streamType := s.codecType.bind StreamType.ofName?
  codecName := s.codecName
  codecLongName := s.codecLongName
  width := s.width
  height := s.height
  frameRate := s.frameRate.bind frameRate?
  pixelFormat := s.pixelFormat
  sampleRate := s.sampleRate.bind count32?
  channels := s.channels
  channelLayout := s.channelLayout
  bitRate := s.bitRate.bind count64?
  duration := s.duration.bind seconds?

def ProbeReport.metadata (r : ProbeReport) : MediaMetadata where
  format := r.format.metadata
  streams := r.streams.map ReportedStream.metadata

def MediaMetadata.ofReport (text : String) : Except ReadError MediaMetadata :=
  ProbeReport.metadata <$> Json.readText ProbeReport.read text

end MediaPipeline
