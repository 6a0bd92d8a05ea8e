import MediaPipeline.StreamType

/-!
What is known of a media file: its container and the streams in it.
-/

namespace MediaPipeline

structure FormatMetadata where
  formatName : Option String
  formatLongName : Option String
  /-- In seconds. -/
  duration : Option Float
  /-- In bytes. -/
  size : Option UInt64
  /-- In bits per second. -/
  bitRate : Option UInt64
  streamCount : UInt64
  /-- Names are distinct. -/
  tags : List (String × String)
  deriving DecidableEq

structure StreamMetadata where
  index : UInt64
  /-- Absent for streams that carry data or attachments. -/
  streamType : Option StreamType
  codecName : Option String
  codecLongName : Option String
  width : Option UInt32
  height : Option UInt32
  /-- Frames per second. -/
  frameRate : Option Float
  pixelFormat : Option String
  /-- In samples per second. -/
  sampleRate : Option UInt32
  channels : Option UInt32
  channelLayout : Option String
  /-- In bits per second. -/
  bitRate : Option UInt64
  /-- In seconds. -/
  duration : Option Float
  deriving DecidableEq

/-- What is known of a media file; streams stand in container order. -/
structure MediaMetadata where
  format : FormatMetadata
  streams : List StreamMetadata
  deriving DecidableEq

namespace MediaMetadata

def streamsOf (m : MediaMetadata) (t : StreamType) : List StreamMetadata :=
  m.streams.filter fun s => s.streamType == some t

def firstVideo (m : MediaMetadata) : Option StreamMetadata :=
  (m.streamsOf .video).head?

def firstAudio (m : MediaMetadata) : Option StreamMetadata :=
  (m.streamsOf .audio).head?

end MediaMetadata

end MediaPipeline
