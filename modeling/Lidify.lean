import Lidify.Lock.DistributedLock
import Lidify.Lock.Exclusion
import Lidify.Webhook.Inbox
import Lidify.Webhook.Delivery
import Lidify.Events.Stream
import Lidify.Events.Invariant
import Lidify.Events.Isolation
import Lidify.Cleanup.DataCleanup
import Lidify.Batch.Update
import Lidify.Batch.Concurrent
import Lidify.Batch.Retry
import Lidify.Wire.Bytes
import Lidify.Wire.MessageParser
import Lidify.Wire.RoundTrip
import Lidify.Vibe.Cleanup
import Lidify.Vibe.Sweeps
import Lidify.Mood.Score
import Lidify.Mood.Bucket
import Lidify.Mood.Mix
import Lidify.Library.TrackRow
import Lidify.Proxy.TargetUrl
import Lidify.Proxy.Headers
import Lidify.Discover.PreviewPlayer
import Lidify.Discovery.Seeding
import Lidify.Playback.StateMachine
import Lidify.Playback.Notify
import Lidify.Playback.Subscribe
import Lidify.Playback.Provider
import Lidify.Download.Actions
import Lidify.Cache.CacheWrapper
