import FrameRgba.PixelFormat.Encoding
import FrameRgba.Frame.Bands
import FrameRgba.Image
import FrameRgba.Proofs.Raster
import FrameRgba.Proofs.Sweep
import FrameRgba.Proofs.Shuffle
import FrameRgba.Proofs.ExactRounding
import FrameRgba.Proofs.GrayLanes
import FrameRgba.Proofs.Conversion
import FrameRgba.Proofs.Picture
import FrameRgba.Proofs.Bands
import FrameRgba.Proofs.ImageRows
import FrameRgba.Proofs.RowRanges
import FrameRgba.Proofs.AllOrNothing
import FrameRgba.Proofs.Names
import FrameRgba.Proofs.Faultless
import FrameRgba.Proofs.SampledBytes
import FrameRgba.Proofs.KernelCalls
import FrameRgba.Proofs.CallerMaps
import FrameRgba.Proofs.RowRefusals
import FrameRgba.Proofs.PaddedPixels
import FrameRgba.Proofs.Rearrangements
import FrameRgba.Proofs.NewImages
import FrameRgba.Proofs.TruthfulRefusals
import FrameRgba.Proofs.CallEvents
import FrameRgba.Proofs.ImageEvents
import FrameRgba.Proofs.SizeCheck
