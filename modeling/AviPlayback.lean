import AviPlayback.Main
import AviPlayback.Proofs.Container.AppendedChunks
import AviPlayback.Proofs.Container.FileOrder
import AviPlayback.Proofs.Container.FileRoundTrip
import AviPlayback.Proofs.Container.FrameTree
import AviPlayback.Proofs.Container.HeaderRecords
import AviPlayback.Proofs.Container.PendingParts
import AviPlayback.Proofs.Container.ReadThrough
import AviPlayback.Proofs.Container.StreamCounter
import AviPlayback.Proofs.Container.Tiling
import AviPlayback.Proofs.Container.TrailingBytes
import AviPlayback.Proofs.Frame.CheckedDrawing
import AviPlayback.Proofs.Frame.ColorMasks
import AviPlayback.Proofs.Frame.RowPixels
import AviPlayback.Proofs.Output.PictureFiles
import AviPlayback.Proofs.Playback.Notices
import AviPlayback.Proofs.Player.EndOfStream
import AviPlayback.Proofs.Player.Failures
import AviPlayback.Proofs.Player.FixedPacing
import AviPlayback.Proofs.Player.ImagesShown
import AviPlayback.Proofs.Player.LoopState
import AviPlayback.Proofs.Player.Panics
import AviPlayback.Proofs.Player.PicturesInOrder
import AviPlayback.Proofs.Player.Refusals
import AviPlayback.Proofs.Player.RendererLife
import AviPlayback.Proofs.Player.SessionEnds
import AviPlayback.Proofs.Player.SurfaceLoss
