namespace DidMessaging

/-! Parties with their DID documents and secrets, as JSON text. The public and private halves of all
keys belong together. -/

structure Sample where
  name : String
  document : String
  secrets : String

namespace Sample

def alice : Sample where
  name := "alice"
  document := r#"
{
  "id": "did:example:alice",
  "keyAgreement": [
    "did:example:alice#key-x25519-1",
    "did:example:alice#key-p256-1"
  ],
  "authentication": [
    "did:example:alice#key-1",
    "did:example:alice#key-2",
    "did:example:alice#key-3"
  ],
  "verificationMethod": [
    {
      "id": "did:example:alice#key-x25519-1",
      "type": "JsonWebKey2020",
      "controller": "did:example:alice",
      "publicKeyJwk": {
        "kty": "OKP",
        "crv": "X25519",
        "x": "0KetqaOCnJ2uzduwSNoo4mKOfw-4dziQ1CkfNArSbh8"
      }
    },
    {
      "id": "did:example:alice#key-p256-1",
      "type": "JsonWebKey2020",
      "controller": "did:example:alice",
      "publicKeyJwk": {
        "kty": "EC",
        "crv": "P-256",
        "x": "ZsQ5A4FuQILz9KLHcsbGRAKWB2FCizqkxvJ_TEecMyA",
        "y": "zRYhBSleAI68U3E_qTyi53c6NGVsggocO6NR_iFSDK0"
      }
    },
    {
      "id": "did:example:alice#key-1",
      "type": "JsonWebKey2020",
      "controller": "did:example:alice",
      "publicKeyJwk": {
        "kty": "OKP",
        "crv": "Ed25519",
        "x": "rojg40efWHIlsG5MMKwyfQOKZWDfemQUG46oqvjd8Uw"
      }
    },
    {
      "id": "did:example:alice#key-2",
      "type": "JsonWebKey2020",
      "controller": "did:example:alice",
      "publicKeyJwk": {
        "kty": "EC",
        "crv": "P-256",
        "x": "f_ryG-MKISK9igcMeBfq3_Q6HoWI5f1iFS3eFwoikWM",
        "y": "P_B18wuX43aP7AMZ2Ac_1qN4kKLbRFvGPSP-J4_ivKs"
      }
    },
    {
      "id": "did:example:alice#key-3",
      "type": "JsonWebKey2020",
      "controller": "did:example:alice",
      "publicKeyJwk": {
        "kty": "EC",
        "crv": "secp256k1",
        "x": "fLoFcPy8jWQq5oZQpnmGkvvNgldLpB5UrnEs1QLm8o0",
        "y": "97mlMDKvAxK5vSAVGbnXnLztTmcArUe_gRVePbk_WJs"
      }
    }
  ],
  "service": []
}
"#
  secrets := r#"
[
  {
    "id": "did:example:alice#key-x25519-1",
    "type": "JsonWebKey2020",
    "privateKeyJwk": {
      "kty": "OKP",
      "crv": "X25519",
      "x": "0KetqaOCnJ2uzduwSNoo4mKOfw-4dziQ1CkfNArSbh8",
      "d": "WEHsxIuy9XfVf5voNfVmWH-XYVIpvb-DTfRxlI7K4UI"
    }
  },
  {
    "id": "did:example:alice#key-p256-1",
    "type": "JsonWebKey2020",
    "privateKeyJwk": {
      "kty": "EC",
      "crv": "P-256",
      "x": "ZsQ5A4FuQILz9KLHcsbGRAKWB2FCizqkxvJ_TEecMyA",
      "y": "zRYhBSleAI68U3E_qTyi53c6NGVsggocO6NR_iFSDK0",
      "d": "JoRJUA_22HAD-krbT5LksGm9QRerg0PX4CG2nfu8WE8"
    }
  },
  {
    "id": "did:example:alice#key-1",
    "type": "JsonWebKey2020",
    "privateKeyJwk": {
      "kty": "OKP",
      "crv": "Ed25519",
      "x": "rojg40efWHIlsG5MMKwyfQOKZWDfemQUG46oqvjd8Uw",
      "d": "P87gbwFvqzq8OLZtb86hVtQ3R8Ev5eg0TESHh6xoSug"
    }
  },
  {
    "id": "did:example:alice#key-2",
    "type": "JsonWebKey2020",
    "privateKeyJwk": {
      "kty": "EC",
      "crv": "P-256",
      "x": "f_ryG-MKISK9igcMeBfq3_Q6HoWI5f1iFS3eFwoikWM",
      "y": "P_B18wuX43aP7AMZ2Ac_1qN4kKLbRFvGPSP-J4_ivKs",
      "d": "3XhKje94ZiT_0frO7nmIguBhg4rutktEjKpE0H-Xs3o"
    }
  },
  {
    "id": "did:example:alice#key-3",
    "type": "JsonWebKey2020",
    "privateKeyJwk": {
      "kty": "EC",
      "crv": "secp256k1",
      "x": "fLoFcPy8jWQq5oZQpnmGkvvNgldLpB5UrnEs1QLm8o0",
      "y": "97mlMDKvAxK5vSAVGbnXnLztTmcArUe_gRVePbk_WJs",
      "d": "rAZILBAvXaplIK9jV0UrY2urz7kLHOIl-gMKrLvoThU"
    }
  }
]
"#

def bob : Sample where
  name := "bob"
  document := r#"
{
  "id": "did:example:bob",
  "keyAgreement": [
    "did:example:bob#key-x25519-1",
    "did:example:bob#key-x25519-2",
    "did:example:bob#key-x25519-3",
    "did:example:bob#key-p256-1",
    "did:example:bob#key-p256-2"
  ],
  "authentication": [
    "did:example:bob#key-1"
  ],
  "verificationMethod": [
    {
      "id": "did:example:bob#key-x25519-1",
      "type": "JsonWebKey2020",
      "controller": "did:example:bob",
      "publicKeyJwk": {
        "kty": "OKP",
        "crv": "X25519",
        "x": "w2BNM6WwsZggbt0YDi_9bxhOGAEzaska9TbRQIUOph0"
      }
    },
    {
      "id": "did:example:bob#key-x25519-2",
      "type": "JsonWebKey2020",
      "controller": "did:example:bob",
      "publicKeyJwk": {
        "kty": "OKP",
        "crv": "X25519",
        "x": "oGnvlLpKtRTUeMerAeqT6FQ7mYENnxTQ70rblELlhHI"
      }
    },
    {
      "id": "did:example:bob#key-x25519-3",
      "type": "JsonWebKey2020",
      "controller": "did:example:bob",
      "publicKeyJwk": {
        "kty": "OKP",
        "crv": "X25519",
        "x": "ockthtJTez4TUvqMtGAXca6VjqfGVMhTIsBGrku_WzM"
      }
    },
    {
      "id": "did:example:bob#key-p256-1",
      "type": "JsonWebKey2020",
      "controller": "did:example:bob",
      "publicKeyJwk": {
        "kty": "EC",
        "crv": "P-256",
        "x": "PRBgZZPVMV1yPHKOd4_15r-mfvMvF_lzNDAWdOyj1i0",
        "y": "o_2DDthZWkW-ffhzoU91bcITU7WwgnhwJ0WWhtDn-uE"
      }
    },
    {
      "id": "did:example:bob#key-p256-2",
      "type": "JsonWebKey2020",
      "controller": "did:example:bob",
      "publicKeyJwk": {
        "kty": "EC",
        "crv": "P-256",
        "x": "6dJC0I_HAQ-GpTVsQl3nTSkSt_KXPHqN4DwfZINyTg8",
        "y": "UtnK8QMOQtRqij9CB0kLYXGGFdG5rtoNvLO1znntWJw"
      }
    },
    {
      "id": "did:example:bob#key-1",
      "type": "JsonWebKey2020",
      "controller": "did:example:bob",
      "publicKeyJwk": {
        "kty": "OKP",
        "crv": "Ed25519",
        "x": "f7BJnrAHX0TjjwoogcLCcQwJfNtee7aCpHbbh2RoBto"
      }
    }
  ],
  "service": [
    {
      "id": "did:example:bob#didcomm-1",
      "type": "DIDCommMessaging",
      "serviceEndpoint": "http://example.com/bob",
      "accept": [
        "didcomm/v2"
      ],
      "routingKeys": []
    }
  ]
}
"#
  secrets := r#"
[
  {
    "id": "did:example:bob#key-x25519-1",
    "type": "JsonWebKey2020",
    "privateKeyJwk": {
      "kty": "OKP",
      "crv": "X25519",
      "x": "w2BNM6WwsZggbt0YDi_9bxhOGAEzaska9TbRQIUOph0",
      "d": "cBWGisT4J3hsgNGj5jlJHH5cEapMAIttp0j4L-EkonU"
    }
  },
  {
    "id": "did:example:bob#key-x25519-2",
    "type": "JsonWebKey2020",
    "privateKeyJwk": {
      "kty": "OKP",
      "crv": "X25519",
      "x": "oGnvlLpKtRTUeMerAeqT6FQ7mYENnxTQ70rblELlhHI",
      "d": "sMa66mTBEmSL5PXhzndLS9SZwDTdTSGq7y1ALffdzkE"
    }
  },
  {
    "id": "did:example:bob#key-x25519-3",
    "type": "JsonWebKey2020",
    "privateKeyJwk": {
      "kty": "OKP",
      "crv": "X25519",
      "x": "ockthtJTez4TUvqMtGAXca6VjqfGVMhTIsBGrku_WzM",
      "d": "sLJf5HKNNazOGBHhhO6FbEqCr642lE71vB-tJIgYQXI"
    }
  },
  {
    "id": "did:example:bob#key-p256-1",
    "type": "JsonWebKey2020",
    "privateKeyJwk": {
      "kty": "EC",
      "crv": "P-256",
      "x": "PRBgZZPVMV1yPHKOd4_15r-mfvMvF_lzNDAWdOyj1i0",
      "y": "o_2DDthZWkW-ffhzoU91bcITU7WwgnhwJ0WWhtDn-uE",
      "d": "LPz_S5-yInxNMe6ZZonK1WiRfJrz0gPk_dC4Y6zQQqc"
    }
  },
  {
    "id": "did:example:bob#key-p256-2",
    "type": "JsonWebKey2020",
    "privateKeyJwk": {
      "kty": "EC",
      "crv": "P-256",
      "x": "6dJC0I_HAQ-GpTVsQl3nTSkSt_KXPHqN4DwfZINyTg8",
      "y": "UtnK8QMOQtRqij9CB0kLYXGGFdG5rtoNvLO1znntWJw",
      "d": "oiU-2x2KNE_FxB9PquGzeFdhPgNq5Ibkp8i0Hq2cnpk"
    }
  },
  {
    "id": "did:example:bob#key-1",
    "type": "JsonWebKey2020",
    "privateKeyJwk": {
      "kty": "OKP",
      "crv": "Ed25519",
      "x": "f7BJnrAHX0TjjwoogcLCcQwJfNtee7aCpHbbh2RoBto",
      "d": "WfLGhLT1YZD6UXFjCrr5382PVpd2HDXSlO8qjWf_PLk"
    }
  }
]
"#

def charlie : Sample where
  name := "charlie"
  document := r#"
{
  "id": "did:example:charlie",
  "keyAgreement": [
    "did:example:charlie#key-x25519-1"
  ],
  "authentication": [
    "did:example:charlie#key-1"
  ],
  "verificationMethod": [
    {
      "id": "did:example:charlie#key-x25519-1",
      "type": "JsonWebKey2020",
      "controller": "did:example:charlie",
      "publicKeyJwk": {
        "kty": "OKP",
        "crv": "X25519",
        "x": "3bWndKNTC87L-tfVNaJExFi_pQLFzBfoLo78z_8GJQ0"
      }
    },
    {
      "id": "did:example:charlie#key-1",
      "type": "JsonWebKey2020",
      "controller": "did:example:charlie",
      "publicKeyJwk": {
        "kty": "OKP",
        "crv": "Ed25519",
        "x": "b_gm4hwCpy8T_R-kt-djthuF37RHd6KCXWdLALKPXhs"
      }
    }
  ],
  "service": [
    {
      "id": "did:example:charlie#didcomm-1",
      "type": "DIDCommMessaging",
      "serviceEndpoint": "did:example:mediator1",
      "accept": [
        "didcomm/v2"
      ],
      "routingKeys": [
        "did:example:mediator2#key-x25519-1"
      ]
    }
  ]
}
"#
  secrets := r#"
[
  {
    "id": "did:example:charlie#key-x25519-1",
    "type": "JsonWebKey2020",
    "privateKeyJwk": {
      "kty": "OKP",
      "crv": "X25519",
      "x": "3bWndKNTC87L-tfVNaJExFi_pQLFzBfoLo78z_8GJQ0",
      "d": "SCbc_3gKgxxGk9kCGvc4ftU5ZDkiPSmIeEXFbd49cWM"
    }
  },
  {
    "id": "did:example:charlie#key-1",
    "type": "JsonWebKey2020",
    "privateKeyJwk": {
      "kty": "OKP",
      "crv": "Ed25519",
      "x": "b_gm4hwCpy8T_R-kt-djthuF37RHd6KCXWdLALKPXhs",
      "d": "-4OSb2NfzIjqoM024bt-cysO-0214mXj8ltrMRrfMt4"
    }
  }
]
"#

def mediator1 : Sample where
  name := "mediator1"
  document := r#"
{
  "id": "did:example:mediator1",
  "keyAgreement": [
    "did:example:mediator1#key-x25519-1"
  ],
  "authentication": [],
  "verificationMethod": [
    {
      "id": "did:example:mediator1#key-x25519-1",
      "type": "JsonWebKey2020",
      "controller": "did:example:mediator1",
      "publicKeyJwk": {
        "kty": "OKP",
        "crv": "X25519",
        "x": "oaDuRCHGD0HhhddzGU5eV3BwImW6Mg9uXyacnt0WqQI"
      }
    }
  ],
  "service": [
    {
      "id": "did:example:mediator1#didcomm-1",
      "type": "DIDCommMessaging",
      "serviceEndpoint": "http://example.com/mediator1",
      "accept": [
        "didcomm/v2"
      ],
      "routingKeys": [
        "did:example:mediator1#key-x25519-1"
      ]
    }
  ]
}
"#
  secrets := r#"
[
  {
    "id": "did:example:mediator1#key-x25519-1",
    "type": "JsonWebKey2020",
    "privateKeyJwk": {
      "kty": "OKP",
      "crv": "X25519",
      "x": "oaDuRCHGD0HhhddzGU5eV3BwImW6Mg9uXyacnt0WqQI",
      "d": "KCalRaMAlVDgKrrtJnwMyK_lGt8NFepnKaeiUvNEv1I"
    }
  }
]
"#

def mediator2 : Sample where
  name := "mediator2"
  document := r#"
{
  "id": "did:example:mediator2",
  "keyAgreement": [
    "did:example:mediator2#key-x25519-1"
  ],
  "authentication": [],
  "verificationMethod": [
    {
      "id": "did:example:mediator2#key-x25519-1",
      "type": "JsonWebKey2020",
      "controller": "did:example:mediator2",
      "publicKeyJwk": {
        "kty": "OKP",
        "crv": "X25519",
        "x": "XezlTqSisVf1LWNhN_OOfFkOg4VEJlr13kE4Uxs1TSE"
      }
    }
  ],
  "service": [
    {
      "id": "did:example:mediator2#didcomm-1",
      "type": "DIDCommMessaging",
      "serviceEndpoint": "http://example.com/mediator2",
      "accept": [
        "didcomm/v2"
      ],
      "routingKeys": []
    }
  ]
}
"#
  secrets := r#"
[
  {
    "id": "did:example:mediator2#key-x25519-1",
    "type": "JsonWebKey2020",
    "privateKeyJwk": {
      "kty": "OKP",
      "crv": "X25519",
      "x": "XezlTqSisVf1LWNhN_OOfFkOg4VEJlr13kE4Uxs1TSE",
      "d": "4PBegokgufaz5zRsxSfzYiffeqXwh1fzXlbhfboF2nk"
    }
  }
]
"#

def mediator3 : Sample where
  name := "mediator3"
  document := r#"
{
  "id": "did:example:mediator3",
  "keyAgreement": [
    "did:example:mediator3#key-x25519-1"
  ],
  "authentication": [],
  "verificationMethod": [
    {
      "id": "did:example:mediator3#key-x25519-1",
      "type": "JsonWebKey2020",
      "controller": "did:example:mediator3",
      "publicKeyJwk": {
        "kty": "OKP",
        "crv": "X25519",
        "x": "uxrbveRPL0GH1N-ASGmOopSwGLbFmc23vJZrAxPo5FA"
      }
    }
  ],
  "service": [
    {
      "id": "did:example:mediator3#didcomm-1",
      "type": "DIDCommMessaging",
      "serviceEndpoint": "did:example:mediator1",
      "accept": [
        "didcomm/v2"
      ],
      "routingKeys": [
        "did:example:mediator3#key-x25519-1"
      ]
    }
  ]
}
"#
  secrets := r#"
[
  {
    "id": "did:example:mediator3#key-x25519-1",
    "type": "JsonWebKey2020",
    "privateKeyJwk": {
      "kty": "OKP",
      "crv": "X25519",
      "x": "uxrbveRPL0GH1N-ASGmOopSwGLbFmc23vJZrAxPo5FA",
      "d": "cBpSm_YwbeuQbwcoEgTV9eU9zMqArWTT_25FRf8lUUU"
    }
  }
]
"#

def dave : Sample where
  name := "dave"
  document := r#"
{
  "id": "did:example:dave",
  "keyAgreement": [
    "did:example:dave#key-x25519-1"
  ],
  "authentication": [],
  "verificationMethod": [
    {
      "id": "did:example:dave#key-x25519-1",
      "type": "JsonWebKey2020",
      "controller": "did:example:dave",
      "publicKeyJwk": {
        "kty": "OKP",
        "crv": "X25519",
        "x": "k_PLIrF24tETfHDAQ8CSORDtKQsU1CugwyIi6nswEH8"
      }
    }
  ],
  "service": [
    {
      "id": "did:example:dave#didcomm-1",
      "type": "DIDCommMessaging",
      "serviceEndpoint": "did:example:mediator3",
      "accept": [
        "didcomm/v2"
      ],
      "routingKeys": []
    }
  ]
}
"#
  secrets := r#"
[
  {
    "id": "did:example:dave#key-x25519-1",
    "type": "JsonWebKey2020",
    "privateKeyJwk": {
      "kty": "OKP",
      "crv": "X25519",
      "x": "k_PLIrF24tETfHDAQ8CSORDtKQsU1CugwyIi6nswEH8",
      "d": "mLA3JDiISoHLCyOuJyl24YtB7ZwOHG8sxg4px5scFFs"
    }
  }
]
"#

def ellie : Sample where
  name := "ellie"
  document := r#"
{
  "id": "did:example:ellie",
  "keyAgreement": [
    "did:example:ellie#key-p256-1"
  ],
  "authentication": [
    "did:example:ellie#key-1"
  ],
  "verificationMethod": [
    {
      "id": "did:example:ellie#key-p256-1",
      "type": "JsonWebKey2020",
      "controller": "did:example:ellie",
      "publicKeyJwk": {
        "kty": "EC",
        "crv": "P-256",
        "x": "s-uy7PSNl-DnSloeN2C7BG22I3VmABLk3YZDjMnII2Q",
        "y": "sYFS3ok-rVBLU6jbpPDMi0WUDia7b1Vt3eh4xdBHMaU"
      }
    },
    {
      "id": "did:example:ellie#key-1",
      "type": "JsonWebKey2020",
      "controller": "did:example:ellie",
      "publicKeyJwk": {
        "kty": "EC",
        "crv": "P-256",
        "x": "bUWamoK-iy_RrHEnrtfKW8-ZxU8K4pM7ztXWUAhAaC4",
        "y": "0_vmJ-NVbc618wnXMioTA2EKF7DtoJCTTu_LLtjkPe0"
      }
    }
  ],
  "service": []
}
"#
  secrets := r#"
[
  {
    "id": "did:example:ellie#key-p256-1",
    "type": "JsonWebKey2020",
    "privateKeyJwk": {
      "kty": "EC",
      "crv": "P-256",
      "x": "s-uy7PSNl-DnSloeN2C7BG22I3VmABLk3YZDjMnII2Q",
      "y": "sYFS3ok-rVBLU6jbpPDMi0WUDia7b1Vt3eh4xdBHMaU",
      "d": "bKw6p2IgxDUXM0Q-Gkq8Saj742I4jlqFztNXMotL6Gw"
    }
  },
  {
    "id": "did:example:ellie#key-1",
    "type": "JsonWebKey2020",
    "privateKeyJwk": {
      "kty": "EC",
      "crv": "P-256",
      "x": "bUWamoK-iy_RrHEnrtfKW8-ZxU8K4pM7ztXWUAhAaC4",
      "y": "0_vmJ-NVbc618wnXMioTA2EKF7DtoJCTTu_LLtjkPe0",
      "d": "QpCo54jQAy7G1ceLaiLaDDeZDoJlwy7grPSWW5S_lMU"
    }
  }
]
"#

def frank : Sample where
  name := "frank"
  document := r#"
{
  "id": "did:example:frank",
  "keyAgreement": [
    "did:example:frank#key-k256-1"
  ],
  "authentication": [],
  "verificationMethod": [
    {
      "id": "did:example:frank#key-k256-1",
      "type": "JsonWebKey2020",
      "controller": "did:example:frank",
      "publicKeyJwk": {
        "kty": "EC",
        "crv": "secp256k1",
        "x": "IwSQQJj4hR4qv5xJc5BKMAmL4srGK9uNOPRky1jN72A",
        "y": "v1GYv0aaYS7THVIKCjgmmOuNIuaSY22pYYW8p-OfFqY"
      }
    }
  ],
  "service": []
}
"#
  secrets := r#"
[
  {
    "id": "did:example:frank#key-k256-1",
    "type": "JsonWebKey2020",
    "privateKeyJwk": {
      "kty": "EC",
      "crv": "secp256k1",
      "x": "IwSQQJj4hR4qv5xJc5BKMAmL4srGK9uNOPRky1jN72A",
      "y": "v1GYv0aaYS7THVIKCjgmmOuNIuaSY22pYYW8p-OfFqY",
      "d": "dSwhZDSPK1ZCoQlpl1AuYegSrFUrnd2Y8zyh_GpthvI"
    }
  }
]
"#

def legacy : Sample where
  name := "legacy"
  document := r#"
{
  "id": "did:example:legacy",
  "keyAgreement": [
    "did:example:legacy#key-x25519-2019",
    "did:example:legacy#key-x25519-2020"
  ],
  "authentication": [
    "did:example:legacy#key-ed25519-2020"
  ],
  "verificationMethod": [
    {
      "id": "did:example:legacy#key-x25519-2019",
      "type": "X25519KeyAgreementKey2019",
      "controller": "did:example:legacy",
      "publicKeyBase58": "3HJaKr6LYNtL1F4ZHnaSPkDk6ZqRs2ydAtLwKd8MckqM"
    },
    {
      "id": "did:example:legacy#key-ed25519-2020",
      "type": "Ed25519VerificationKey2020",
      "controller": "did:example:legacy",
      "publicKeyMultibase": "z6MkfCdtSAzpoZWeWXFG5UFuCnbkQm56jSC6ZTUbNSj76vy5"
    },
    {
      "id": "did:example:legacy#key-x25519-2020",
      "type": "X25519KeyAgreementKey2020",
      "controller": "did:example:legacy",
      "publicKeyMultibase": "z6LSr7RLStiRd8huKVAK4tGvnnpTpk4WY41CNyrWccxRNgAr"
    }
  ],
  "service": []
}
"#
  secrets := r#"
[
  {
    "id": "did:example:legacy#key-x25519-2019",
    "type": "JsonWebKey2020",
    "privateKeyJwk": {
      "kty": "OKP",
      "crv": "X25519",
      "x": "IeSJ1juQny0wLa6axgFXRnI0fXIyFoOKYKwfRnXlZhg",
      "d": "SMhI4bROfFhBQiQ9gWBgJ_LDcpVi4dLEvEZMj-uFU2s"
    }
  },
  {
    "id": "did:example:legacy#key-ed25519-2020",
    "type": "JsonWebKey2020",
    "privateKeyJwk": {
      "kty": "OKP",
      "crv": "Ed25519",
      "x": "Cxyr-Ngocb--08KNwHCng4ZHIMZ88PnYMJdZNLCtk1A",
      "d": "xuqYfWDTHsAIDnq1rLm28JAulIXyClogaWlODzpC7HU"
    }
  },
  {
    "id": "did:example:legacy#key-x25519-2020",
    "type": "JsonWebKey2020",
    "privateKeyJwk": {
      "kty": "OKP",
      "crv": "X25519",
      "x": "1nspF0DntHHvMNVBkD5S8Brusg6hsGwtnnOiJQ5GgB8",
      "d": "8Egmd4VUoZVUhD2fYjeKV814_1mF3GMNZsGk6GCq4WA"
    }
  }
]
"#

def all : List Sample :=
  [alice, bob, charlie, mediator1, mediator2, mediator3, dave, ellie, frank, legacy]

def legacyKeys : List (String × String) := [
  ("key-x25519-2019", "IeSJ1juQny0wLa6axgFXRnI0fXIyFoOKYKwfRnXlZhg"),
  ("key-ed25519-2020", "Cxyr-Ngocb--08KNwHCng4ZHIMZ88PnYMJdZNLCtk1A"),
  ("key-x25519-2020", "1nspF0DntHHvMNVBkD5S8Brusg6hsGwtnnOiJQ5GgB8")]

end Sample

end DidMessaging
