import IronReplay.FrameStore
import IronReplay.Files
import IronReplay.Ingest
import IronReplay.Playback
import IronReplay.Pacing
import IronReplay.Transaction
import IronReplay.IngestTasks
import IronReplay.Connection
import IronReplay.RenderCache
import IronReplay.IngestSerial
import IronReplay.AllFrames
import IronReplay.Inspect
import IronReplay.Mount
import IronReplay.Stop
import IronReplay.UploaderTasks
