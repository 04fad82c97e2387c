import LibXively.CLib.Scanf
import LibXively.CLib.CharArray
import LibXively.Calendar.Mktime
import LibXively.Model.XiTime
import LibXively.Model.Structures
import LibXively.Model.Xively
import LibXively.Model.PosixComm
import LibXively.Requests.RequestFraming
import LibXively.Replies.Render
import LibXively.Comm.PosixLayer
import LibXively.Api.Sessions
import LibXively.Api.Outcomes
import LibXively.Api.ReceiveBuffer
import LibXively.Decoding.RoundTrip
import LibXively.Decoding.LineLocality
import LibXively.Decoding.Failures
import LibXively.Decoding.FeedFormat
import LibXively.Calendar.Instants
import LibXively.Decoding.Typing
import LibXively.Requests.RequestTarget
import LibXively.Requests.BuilderHistory
import LibXively.Requests.UpdateLines
import LibXively.Api.Sending
import LibXively.Api.Ledgers
import LibXively.Decoding.Contents
import LibXively.Decoding.FeedLimits
import LibXively.Replies.Spacing
import LibXively.Replies.HeaderCount
import LibXively.Replies.Checklist
import LibXively.Requests.StampText
import LibXively.Decoding.Timestamps
import LibXively.Replies.StatusLine
import LibXively.Replies.Content
import LibXively.Requests.DeleteRange
import LibXively.Requests.DatapointPath
import LibXively.Requests.UpdatePaths
import LibXively.Decoding.BoundedCopy
import LibXively.Replies.Tiling
import LibXively.Api.Programs
import LibXively.Api.Fates
import LibXively.Api.Conversations
import LibXively.Api.Registers
import LibXively.Api.CutReplies
import LibXively.Api.Stages
import LibXively.Decoding.TaggedValues
import LibXively.Decoding.CanonicalTexts
import LibXively.Requests.StampOrder
