import ModelGateway.Text.Quoted

namespace ModelGateway

inductive ZlibFault where
  | header
  | dictionary
  | checksum
  | corrupt (offset : Nat)
  deriving DecidableEq, Repr

namespace ZlibFault

def message : ZlibFault → Bytes
  | .header => "zlib: invalid header"
  | .dictionary => "zlib: invalid dictionary"
  | .checksum => "zlib: invalid checksum"
  | .corrupt offset =>
      utf8 "flate: corrupt input before offset " ++ Bytes.ofNat offset

end ZlibFault

inductive PngChunk where
  | header
  | palette
  | transparency
  | data
  | ending
  deriving DecidableEq, Repr

namespace PngChunk

def name : PngChunk → Bytes
  | .header => "IHDR"
  | .palette => "PLTE"
  | .transparency => "tRNS"
  | .data => "IDAT"
  | .ending => "IEND"

end PngChunk

inductive PngFault where
  | checksum
  | dimensions
  | depth (bits colourType : Nat)
  | compression
  | filterMethod
  | interlacing
  | chunkLength (chunk : PngChunk)
  | chunkOrder
  | colourMismatch (chunk : PngChunk)
  | filter
  | tooFewPixels
  | tooManyPixels
  | hugeChunk (length : Nat)
  | dimensionOverflow
  | imageSize (width height : Int)
  | paletteLength (n : Nat)
  deriving DecidableEq, Repr

namespace PngFault

def invalid (s : Bytes) : Bytes := utf8 "png: invalid format: " ++ s

def unsupported (s : Bytes) : Bytes := utf8 "png: unsupported feature: " ++ s

def message : PngFault → Bytes
  | .checksum => invalid "invalid checksum"
  | .dimensions => invalid "non-positive dimension"
  | .depth bits colourType =>
      unsupported (utf8 "bit depth " ++ Bytes.ofNat bits ++
        utf8 ", color type " ++ Bytes.ofNat colourType)
  | .compression => unsupported "compression method"
  | .filterMethod => unsupported "filter method"
  | .interlacing => invalid "invalid interlace method"
  | .chunkLength chunk => invalid (utf8 "bad " ++ chunk.name ++ utf8 " length")
  | .chunkOrder => invalid "chunk out of order"
  | .colourMismatch chunk =>
      invalid (chunk.name ++ utf8 ", color type mismatch")
  | .filter => invalid "bad filter type"
  | .tooFewPixels => invalid "not enough pixel data"
  | .tooManyPixels => invalid "too much pixel data"
  | .hugeChunk length =>
      invalid (utf8 "Bad chunk length: " ++ Bytes.ofNat length)
  | .dimensionOverflow => unsupported "dimension overflow"
  | .imageSize width height =>
      invalid (utf8 "invalid image size: " ++ Bytes.ofInt width ++ utf8 "x" ++
        Bytes.ofInt height)
  | .paletteLength n => invalid (utf8 "bad palette length: " ++ Bytes.ofNat n)

end PngFault

inductive GifPart where
  | header
  | colourTable
  | frames
  | extension
  | graphicControl
  | descriptor
  | imageData
  deriving DecidableEq, Repr

namespace GifPart

private def phrase : GifPart → Bytes
  | .header => "gif: reading header"
  | .colourTable => "gif: reading color table"
  | .frames => "gif: reading frames"
  | .extension => "gif: reading extension"
  | .graphicControl => "gif: can't read graphic control"
  | .descriptor => "gif: can't read image descriptor"
  | .imageData => "gif: reading image data"

end GifPart

inductive GifFault where
  | truncated (part : GifPart)
  | invalidCode
  | version (signature : Bytes)
  | noColourTable
  | pixelValue
  | frameBounds
  | codeSize (bits : Nat)
  | tooLittleData
  | tooMuchData
  | noFrame
  | block (mark : UInt8)
  | extension (mark : UInt8)
  | controlSize (n : Nat)
  | controlEnd (n : Nat)
  deriving DecidableEq, Repr

namespace GifFault

def message : GifFault → Bytes
  | .truncated part => part.phrase ++ utf8 ": unexpected EOF"
  | .invalidCode => "gif: reading image data: lzw: invalid code"
  | .version signature =>
      utf8 "gif: can't recognize format " ++ Text.quote signature
  | .noColourTable => "gif: no color table"
  | .pixelValue => "gif: invalid pixel value"
  | .frameBounds => "gif: frame bounds larger than image bounds"
  | .codeSize bits =>
      utf8 "gif: pixel size in decode out of range: " ++ Bytes.ofNat bits
  | .tooLittleData => "gif: not enough image data"
  | .tooMuchData => "gif: too much image data"
  | .noFrame => "gif: missing image data"
  | .block mark => utf8 "gif: unknown block type: 0x" ++ Bytes.hexByte mark
  | .extension mark => utf8 "gif: unknown extension 0x" ++ Bytes.hexByte mark
  | .controlSize n =>
      utf8 "gif: invalid graphic control extension block size: " ++
        Bytes.ofNat n
  | .controlEnd n =>
      utf8 "gif: invalid graphic control extension block terminator: " ++
        Bytes.ofNat n

end GifFault

inductive TiffFault where
  | dataTooLarge
  | colourMapLength
  | sampleFormat
  | entryType
  | dataType
  | unsorted
  | noBits
  | bits (n : Nat)
  | samples (kind : Bytes)
  | colourModel
  | extraSamples
  | colourIndex
  | tooFewPixels
  | predictor
  | tileSize
  | blocks
  | compression (n : Nat)
  deriving DecidableEq, Repr

namespace TiffFault

def invalid (s : Bytes) : Bytes := utf8 "tiff: invalid format: " ++ s

def unsupported (s : Bytes) : Bytes := utf8 "tiff: unsupported feature: " ++ s

def message : TiffFault → Bytes
  | .dataTooLarge => invalid "IFD data too large"
  | .colourMapLength => invalid "bad ColorMap length"
  | .sampleFormat => unsupported "sample format"
  | .entryType => unsupported "IFD entry datatype"
  | .dataType => unsupported "data type"
  | .unsorted => invalid "tags are not sorted in ascending order"
  | .noBits => invalid "BitsPerSample must not be 0"
  | .bits n => unsupported (utf8 "BitsPerSample of " ++ Bytes.ofNat n)
  | .samples kind => invalid (utf8 "wrong number of samples for " ++ kind)
  | .colourModel => unsupported "color model"
  | .extraSamples => unsupported "extra samples"
  | .colourIndex => invalid "invalid color index"
  | .tooFewPixels => invalid "not enough pixel data"
  | .predictor => unsupported "horizontal predictor with 1 BitsPerSample"
  | .tileSize => invalid "tile size is too small"
  | .blocks => invalid "inconsistent header"
  | .compression n => unsupported (utf8 "compression value " ++ Bytes.ofNat n)

end TiffFault

inductive FaxFault where
  | incompleteCode
  | invalidCode
  | invalidOffset
  | missingLineEnd
  | runOverWidth
  | longRun
  | mode
  | width
  deriving DecidableEq, Repr

namespace FaxFault

def message : FaxFault → Bytes
  | .incompleteCode => "ccitt: incomplete code"
  | .invalidCode => "ccitt: invalid code"
  | .invalidOffset => "ccitt: invalid offset"
  | .missingLineEnd => "ccitt: missing End-of-Line"
  | .runOverWidth => "ccitt: run length overflows width"
  | .longRun => "ccitt: run length too long"
  | .mode => "ccitt: unsupported mode"
  | .width => "ccitt: unsupported width"

end FaxFault

inductive JpegFault where
  | invalid (what : Bytes)
  | unsupported (what : Bytes)
  deriving DecidableEq, Repr

namespace JpegFault

def message : JpegFault → Bytes
  | .invalid what => utf8 "invalid JPEG format: " ++ what
  | .unsupported what => utf8 "unsupported JPEG feature: " ++ what

end JpegFault

inductive WebpFault where
  | invalidFormat
  | missingHeader
  | shortData
  | shortChunkHeader
  | longChunk
  | missingPadding
  | frameStart
  | frameSize
  | dependentFrame
  | lossless (what : Bytes)
  deriving DecidableEq, Repr

namespace WebpFault

def message : WebpFault → Bytes
  | .invalidFormat => "webp: invalid format"
  | .missingHeader => "riff: missing RIFF chunk header"
  | .shortData => "riff: short chunk data"
  | .shortChunkHeader => "riff: short chunk header"
  | .longChunk => "riff: list subchunk too long"
  | .missingPadding => "riff: missing padding byte"
  | .frameStart => "vp8: invalid format"
  | .frameSize => "vp8: too much data to decode"
  | .dependentFrame => "vp8: Golden / AltRef frames are not implemented"
  | .lossless what => utf8 "vp8l: " ++ what

end WebpFault

inductive RoomFault where
  | dimensions (kind : Bytes)
  | length
  deriving DecidableEq, Repr

namespace RoomFault

def message : RoomFault → Bytes
  | .dimensions kind =>
      utf8 "image: New" ++ kind ++
        utf8 " Rectangle has huge or negative dimensions"
  | .length => "runtime error: makeslice: len out of range"

end RoomFault

inductive ImageFault where
  | unknownFormat
  -- The file ends where something else is due.
  | endOfFile
  -- The file ends in the middle of something.
  | truncated
  | zlib (fault : ZlibFault)
  | lzw
  | png (fault : PngFault)
  -- The pixels of a PNG file are complete, and the stream that held them goes
  -- wrong after them.
  | pngStream (cause : ImageFault)
  | gif (fault : GifFault)
  | bmp
  | tiff (fault : TiffFault)
  | fax (fault : FaxFault)
  | jpeg (fault : JpegFault)
  | webp (fault : WebpFault)
  -- The reader breaks down instead of reporting an error.
  | breakdown (fault : RoomFault)
  | encode (format : Bytes) (fault : PngFault)
  deriving DecidableEq, Repr

namespace ImageFault

def isBreakdown : ImageFault → Bool
  | .breakdown _ => true
  | _ => false

def message : ImageFault → Bytes
  | .unknownFormat => "image: unknown format"
  | .endOfFile => "EOF"
  | .truncated => "unexpected EOF"
  | .zlib fault => fault.message
  | .lzw => "lzw: invalid code"
  | .png fault => fault.message
  | .pngStream cause => PngFault.invalid cause.message
  | .gif fault => fault.message
  | .bmp => "bmp: unsupported BMP image"
  | .tiff fault => fault.message
  | .fax fault => fault.message
  | .jpeg fault => fault.message
  | .webp fault => fault.message
  | .breakdown fault => fault.message
  | .encode format fault =>
      utf8 "failed to re-encode " ++ format ++ utf8 " image as png: " ++
        fault.message

end ImageFault

end ModelGateway
